import Switchboard.ServiceError
import Switchboard.Text.Digits
import Switchboard.Text.Parts

namespace Switchboard

/-!
# Locations of databases

The URLs that name a database, and which databases can be opened.  A file must lie
in a directory that is there.  Rows in memory need a name that all connections
share, since each of them would otherwise see tables of its own.
-/

/-- The directories that are there, each by the names that lead to it from the root. -/
structure Disk where
  directories : List (List String)
  workingDirectory : List String
  deriving DecidableEq, Repr

/-- What a URL says about a database. -/
structure Location where
  path : String
  inMemory : Bool := false
  isReadOnly : Bool := false
  isShared : Bool := false
  isImmutable : Bool := false
  fileSystem : Option String := none
  deriving DecidableEq, Repr

namespace Location

/-- The rest of a text after a start that may be repeated; the fuel bounds the repetitions. -/
def dropStarts (start : List Char) : Nat → List Char → List Char
  | 0, text => text
  | fuel + 1, text =>
      if start.isPrefixOf text then dropStarts start fuel (text.drop start.length) else text

/-- A URL without its scheme. -/
def withoutScheme (url : List Char) : List Char :=
  let rest := dropStarts "sqlite://".toList url.length url
  dropStarts "sqlite:".toList rest.length rest

/-- The bytes of a text in which a percent sign and two digits stand for a byte. -/
def bytesOf : List Char → List UInt8
  | [] => []
  | '%' :: high :: low :: rest =>
      match Text.hexadecimalValue? [high, low] with
      | some value => UInt8.ofNat value :: bytesOf rest
      | none => '%'.toUInt8 :: bytesOf (high :: low :: rest)
  | c :: rest => (String.singleton c).toUTF8.toList ++ bytesOf rest

/-- The text of the bytes, if they make one. -/
def decoded? (text : List Char) : Option String :=
  String.fromUTF8? ⟨(bytesOf text).toArray⟩

/-- What stands before and behind the first occurrence of a character, if there is one. -/
def splitAt (separator : Char) (text : List Char) : List Char × Option (List Char) :=
  match text.span (· != separator) with
  | (before, []) => (before, none)
  | (before, _ :: behind) => (before, some behind)

/-- A word of a query; one that is no text is no known word. -/
def queryWord (text : List Char) : String :=
  (decoded? (text.map fun c => if c = '+' then ' ' else c)).getD ""

/-- The names and values of a query. -/
def queryPairs (query : List Char) : List (String × String) :=
  ((Text.parts '&' query).filter (· != [])).map fun part =>
    let (name, value?) := splitAt '=' part
    (queryWord name, queryWord (value?.getD []))

/-- Change a location as one pair of the query says. -/
def configure? (location : Location) : String × String → Option Location
  | ("mode", "ro") => some { location with isReadOnly := true }
  | ("mode", "rw") => some location
  | ("mode", "rwc") => some location
  | ("mode", "memory") => some { location with inMemory := true, isShared := true }
  | ("cache", "private") => some { location with isShared := false }
  | ("cache", "shared") => some { location with isShared := true }
  | ("immutable", "true") => some { location with isImmutable := true }
  | ("immutable", "1") => some { location with isImmutable := true }
  | ("immutable", "false") => some { location with isImmutable := false }
  | ("immutable", "0") => some { location with isImmutable := false }
  | ("vfs", name) => some { location with fileSystem := some name }
  | _ => none

/-- The location of a path; one path stands for memory under a name of its own. -/
def ofPath? (path : List Char) : Option Location :=
  if path = ":memory:".toList then
    some { path := "file:memory", inMemory := true, isShared := true }
  else (decoded? path).map fun path => { path }

/-- The location of a URL, if it says nothing unknown. -/
def ofUrl? (url : String) : Option Location := do
  let (path, query?) := splitAt '?' (withoutScheme url.toList)
  let location ← ofPath? path
  (queryPairs (query?.getD [])).foldlM configure? location

/-- The names that lead from the root to a path, without detours. -/
def steps (disk : Disk) (path : List Char) : List String :=
  let start := if path.head? = some '/' then [] else disk.workingDirectory
  (Text.parts '/' path).foldl
    (fun taken part =>
      let name := String.ofList part
      if name = "" || name = "." then taken
      else if name = ".." then taken.dropLast
      else taken ++ [name])
    start

/-- The file systems that can hold a database. -/
def fileSystems : List String :=
  ["unix", "unix-dotfile", "unix-excl", "unix-none"]

/-- Whether a path is written so that connections can share it as a name in memory. -/
def isName (location : Location) : Bool :=
  "file:".toList.isPrefixOf location.path.toList ||
    (location.path != "" && (location.isImmutable || location.fileSystem.isSome))

/-- Whether the file of a location can be there or be made. -/
def isFile (location : Location) (disk : Disk) : Bool :=
  let taken := steps disk location.path.toList
  location.path != "" && location.path != ":memory:" &&
    disk.directories.contains taken.dropLast && !disk.directories.contains taken

/-- Whether the tables of a location can be made. -/
def canOpen (location : Location) (disk : Disk) : Bool :=
  !location.isReadOnly && location.fileSystem.all fileSystems.contains &&
    !location.path.toList.contains '\x00' &&
    if location.inMemory then location.isShared && location.isName
    else !location.isImmutable && location.isFile disk

/-- Open the database of a URL. -/
def openUrl (disk : Disk) (url : String) : Except ServiceError Location :=
  match ofUrl? url with
  | none => .error (.internal ServiceError.invalidUrl)
  | some location =>
      if location.canOpen disk then .ok location else .error (.database .unworded)

end Location

/-- The names of the tables and indexes of an open database, in their order. -/
def schemaNames : List String :=
  ["idx_toggle_overrides_expires_at", "toggle_exposures", "toggle_flags", "toggle_overrides"]

end Switchboard
