namespace Switchboard

/-!
# TOML values

The values of TOML documents, and the rules by which a document adds to a table.  A
table keeps how it came about, since that decides what may still be added: a table
in braces is complete, a header opens a table once, and a dotted key goes on only
with tables that dotted keys have made.
-/

/-- How a table came about. -/
inductive Toml.Origin where
  /-- It is written in braces. -/
  | inline
  /-- It has a header of its own. -/
  | header
  /-- A longer header passes through it. -/
  | implied
  /-- A dotted key passes through it. -/
  | dotted
  deriving DecidableEq, Repr

/-- A TOML value; floats and dates are kept as they are written. -/
inductive Toml where
  | string (value : String)
  | integer (value : Int)
  | float (written : String)
  | boolean (value : Bool)
  | dateTime (written : String)
  | array (items : List Toml)
  | table (origin : Toml.Origin) (entries : List (String × Toml))
  /-- The tables of headers in double brackets; only the last can be added to. -/
  | tables (earlier : List (List (String × Toml))) (last : List (String × Toml))
  deriving Repr, Inhabited

namespace Toml

/-- The entries of a table; no two have one key. -/
abbrev Entries := List (String × Toml)

namespace Entries

/-- Give a key that is there another value. -/
def replace (entries : Entries) (key : String) (value : Toml) : Entries :=
  entries.map fun (name, old) => if name = key then (name, value) else (name, old)

/--
Change the table at the end of a path of headers.  Tables on the way that are not
there yet are made.
-/
def within (change : Entries → Option Entries) : List String → Entries → Option Entries
  | [], entries => change entries
  | key :: path, entries =>
      match entries.lookup key with
      | none => do
          let inner ← within change path []
          some (entries ++ [(key, .table .implied inner)])
      | some (.table .inline _) => none
      | some (.table origin inner) => do
          let inner ← within change path inner
          some (entries.replace key (.table origin inner))
      | some (.tables earlier last) => do
          let last ← within change path last
          some (entries.replace key (.tables earlier last))
      | some _ => none

/-- Open the table of a key, which may have been passed through but not opened before. -/
def openTable (key : String) (entries : Entries) : Option Entries :=
  match entries.lookup key with
  | none => some (entries ++ [(key, .table .header [])])
  | some (.table .implied inner) => some (entries.replace key (.table .header inner))
  | some _ => none

/-- Open one more of the tables of a key. -/
def openNextTable (key : String) (entries : Entries) : Option Entries :=
  match entries.lookup key with
  | none => some (entries ++ [(key, .tables [] [])])
  | some (.tables earlier last) => some (entries.replace key (.tables (earlier ++ [last]) []))
  | some _ => none

/--
Give a dotted key a value.  The key must be new; the table that takes its last part
is the one at hand or one that dotted keys have made.
-/
def insert (value : Toml) : List String → Entries → Option Entries
  | [], _ => none
  | [key], entries =>
      match entries.lookup key with
      | none => some (entries ++ [(key, value)])
      | some _ => none
  | key :: next :: path, entries =>
      match entries.lookup key with
      | none => do
          let inner ← insert value (next :: path) []
          some (entries ++ [(key, .table .dotted inner)])
      | some (.table .dotted inner) => do
          let inner ← insert value (next :: path) inner
          some (entries.replace key (.table .dotted inner))
      | some (.table .implied inner) =>
          if path.isEmpty then none
          else do
            let inner ← insert value (next :: path) inner
            some (entries.replace key (.table .implied inner))
      | some (.tables earlier last) =>
          if path.isEmpty then none
          else do
            let last ← insert value (next :: path) last
            some (entries.replace key (.tables earlier last))
      | some _ => none

/-- The table of dotted keys and their values, written in braces. -/
def ofPairs (pairs : List (List String × Toml)) : Option Entries :=
  pairs.foldlM (fun entries (path, value) => entries.insert value path) []

end Entries

end Toml

end Switchboard
