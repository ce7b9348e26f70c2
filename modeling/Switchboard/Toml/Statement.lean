import Switchboard.Toml.Basic

namespace Switchboard.Toml

/-!
# Statements of documents

A document is a sequence of headers and pairs.  Headers say which table the pairs
after them belong to; pairs before the first header belong to the document itself.
-/

/-- A line of a document that is not blank. -/
inductive Statement where
  /-- Open the table of a path. -/
  | header (path : List String)
  /-- Open one more of the tables of a path. -/
  | nextHeader (path : List String)
  /-- Give a dotted key of the open table a value. -/
  | pair (path : List String) (value : Toml)
  deriving Repr

/-- What a document has said so far, and the path of the open table. -/
structure Draft where
  entries : Entries := []
  current : List String := []
  deriving Repr

namespace Draft

/-- Open a table by its path. -/
def openAt
    (draft : Draft)
    (enter : String → Entries → Option Entries)
    (path : List String) :
    Option Draft := do
  let key ← path.getLast?
  let entries ← draft.entries.within (enter key) path.dropLast
  some ⟨entries, path⟩

/-- Obey a statement, unless it says again what has been said. -/
def obey (draft : Draft) : Statement → Option Draft
  | .header path => draft.openAt Entries.openTable path
  | .nextHeader path => draft.openAt Entries.openNextTable path
  | .pair path value => do
      let entries ← draft.entries.within (Entries.insert value path) draft.current
      some { draft with entries }

end Draft

/-- The entries of the document with the given statements. -/
def ofStatements? (statements : List Statement) : Option Entries :=
  (statements.foldlM Draft.obey {}).map Draft.entries

end Switchboard.Toml
