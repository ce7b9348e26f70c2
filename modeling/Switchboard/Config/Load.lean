import Switchboard.Config.Document
import Switchboard.Config.Variables

namespace Switchboard

/-!
# Loading configurations

Files are laid over each other in their order, and the variables over the files.
The first file that cannot be used ends the loading.
-/

/-- What is found at the path of a file. -/
inductive ConfigFile where
  /-- Nothing, which sets nothing. -/
  | missing
  /-- Something that cannot be read. -/
  | unreadable
  /-- A file with these bytes. -/
  | bytes (content : ByteArray)

namespace ConfigFile

/-- The file with a text. -/
def ofText (text : String) : ConfigFile :=
  .bytes text.toUTF8

/-- What a file sets. -/
def overlay : ConfigFile → Except ConfigError Overlay
  | .missing => .ok {}
  | .unreadable => .error .unreadable
  | .bytes content =>
      match String.fromUTF8? content with
      | some document => Overlay.ofDocument document
      | none => .error .unreadable

end ConfigFile

namespace Config

/-- What files set together. -/
def overlayFiles (files : List ConfigFile) : Except ConfigError Overlay := do
  let overlays ← files.mapM ConfigFile.overlay
  return Overlay.mergeAll overlays

/-- The configuration of files and, if it counts, of the variables over them. -/
def load (files : List ConfigFile) (assigned? : Option Variables) :
    Except ConfigError Config := do
  let below ← overlayFiles files
  match assigned? with
  | none => below.finalize
  | some assigned =>
      let above ← Overlay.ofVariables assigned
      (below.merge above).finalize

end Config

end Switchboard
