import Switchboard.Toml.Quoted
import Switchboard.Toml.Scalar
import Switchboard.Toml.Statement

namespace Switchboard.Toml

/-!
# Reading TOML documents

A reader of the standard's grammar.  `parse` takes a whole document to its entries;
the functions before it take a leading part and give the rest.  Values are nested
less than eighty deep, and no key has eighty parts.
-/

/-- The number of parts and of nested values that is too many. -/
def depthLimit : Nat := 80

/-- The rest of a text after the end of a line, with the comment before it. -/
def lineEnd? (text : List Char) : Option (List Char) :=
  let rest :=
    match skipSpace text with
    | '#' :: rest => rest.dropWhile isPrintable
    | rest => rest
  if rest.isEmpty then some [] else newline? rest

/--
Skip blanks, comments and line ends between the parts of an array.  A comment ends
at a line end, and a carriage return begins one.
-/
def skipComments? (inComment : Bool) : List Char → Option (List Char)
  | [] => if inComment then none else some []
  | '\n' :: rest => skipComments? false rest
  | '\r' :: '\n' :: rest => skipComments? false rest
  | c :: rest =>
      if inComment then
        if isPrintable c then skipComments? true rest else none
      else if isSpace c then skipComments? false rest
      else if c = '#' then skipComments? true rest
      else if c = '\r' then none
      else some (c :: rest)

/-- A character of a key without marks. -/
def isBareChar (c : Char) : Bool :=
  c.isAlphanum || c == '_' || c == '-'

/-- One part of a key. -/
def keyPart? (text : List Char) : Option (String × List Char) :=
  match text with
  | '"' :: rest => (basic? rest).map fun (part, rest) => (String.ofList part, rest)
  | '\x27' :: rest => (literal? rest).map fun (part, rest) => (String.ofList part, rest)
  | _ =>
      let part := text.takeWhile isBareChar
      if part.isEmpty then none else some (String.ofList part, text.dropWhile isBareChar)

/-- The parts of a key between points, with the blanks around them. -/
def keyParts? : Nat → List Char → Option (List String × List Char)
  | 0, _ => none
  | fuel + 1, text => do
      let (part, rest) ← keyPart? (skipSpace text)
      match skipSpace rest with
      | '.' :: rest => do
          let (parts, rest) ← keyParts? fuel rest
          some (part :: parts, rest)
      | rest => some ([part], rest)

/-- A key with fewer parts than the limit. -/
def key? (text : List Char) : Option (List String × List Char) :=
  keyParts? (depthLimit - 1) text

mutual

/-- A value; `room` values may be nested in it, and the fuel bounds the nested calls. -/
def value? : Nat → Nat → List Char → Option (Toml × List Char)
  | 0, _, _ => none
  | fuel + 1, room, text =>
      match text with
      | '[' :: rest =>
          match room with
          | 0 => none
          | room + 1 => (items? fuel room rest).map fun (items, rest) => (.array items, rest)
      | '\x7b' :: rest =>
          match room, skipSpace rest with
          | 0, _ => none
          | _ + 1, '\x7d' :: rest => some (.table .inline [], rest)
          | room + 1, rest => do
              let (pairs, rest) ← pairs? fuel room rest
              let entries ← Entries.ofPairs pairs
              some (.table .inline entries, rest)
      | 't' :: 'r' :: 'u' :: 'e' :: rest => some (.boolean true, rest)
      | 'f' :: 'a' :: 'l' :: 's' :: 'e' :: rest => some (.boolean false, rest)
      | _ =>
          match string? text with
          | some (value, rest) => some (.string value, rest)
          | none => scalar? text

/-- The items of an array up to its closing bracket, a comma after the last allowed. -/
def items? : Nat → Nat → List Char → Option (List Toml × List Char)
  | 0, _, _ => none
  | fuel + 1, room, text =>
      match skipComments? false text with
      | none => none
      | some (']' :: rest) => some ([], rest)
      | some text =>
          match value? fuel room text with
          | none => none
          | some (item, rest) =>
              match skipComments? false rest with
              | some (',' :: rest) =>
                  (items? fuel room rest).map fun (items, rest) => (item :: items, rest)
              | some (']' :: rest) => some ([item], rest)
              | _ => none

/-- The pairs of a table in braces up to its closing brace. -/
def pairs? : Nat → Nat → List Char → Option (List (List String × Toml) × List Char)
  | 0, _, _ => none
  | fuel + 1, room, text =>
      match key? text with
      | some (path, '=' :: rest) =>
          match value? fuel room (skipSpace rest) with
          | none => none
          | some (value, rest) =>
              match skipSpace rest with
              | ',' :: rest =>
                  (pairs? fuel room rest).map fun (pairs, rest) => ((path, value) :: pairs, rest)
              | '\x7d' :: rest => some ([(path, value)], rest)
              | _ => none
      | _ => none

end

/-- A statement without its line end. -/
def statement? (text : List Char) : Option (Statement × List Char) :=
  match text with
  | '[' :: '[' :: rest =>
      match key? rest with
      | some (path, ']' :: ']' :: rest) => some (.nextHeader path, rest)
      | _ => none
  | '[' :: rest =>
      match key? rest with
      | some (path, ']' :: rest) => some (.header path, rest)
      | _ => none
  | _ =>
      match key? text with
      | some (path, '=' :: rest) => do
          let (value, rest) ← value? (2 * rest.length + 2) (depthLimit - 1) (skipSpace rest)
          some (.pair path value, rest)
      | _ => none

/-- The statements of a text; the fuel bounds the number of lines. -/
def statements? : Nat → List Char → Option (List Statement)
  | 0, _ => none
  | fuel + 1, text =>
      match skipSpace text with
      | [] => some []
      | text =>
          match lineEnd? text with
          | some rest => statements? fuel rest
          | none => do
              let (statement, rest) ← statement? text
              let rest ← lineEnd? rest
              let later ← statements? fuel rest
              some (statement :: later)

/-- The entries of a document, which may start with a byte order mark. -/
def parse (document : String) : Option Entries :=
  let characters :=
    match document.toList with
    | '\ufeff' :: rest => rest
    | text => text
  (statements? (characters.length + 1) characters).bind ofStatements?

end Switchboard.Toml
