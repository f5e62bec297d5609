import EndpointHooks.Config.Decode
import EndpointHooks.Run
import EndpointHooks.Toml.Document
import EndpointHooks.Toml.Excerpt

/-! Settings from the text of a document or from a file. -/

namespace EndpointHooks

namespace Config

def ofText (text : String) : Except Error Config :=
  let s := text.toList
  match Toml.document? s with
  | none => .error .configMalformed
  | some root =>
    match decode root with
    | .ok config => .ok config
    | .error complaint =>
      .error (.configInvalid
        (match complaint.span with
          | some span => Toml.report s span complaint.message
          | none => complaint.message ++ "\n"))

end Config

/-- A directory as the names and contents of its files. -/
structure Directory where
  files : List (String × ByteArray)

/-- The names in a path; dots only lead to this directory or to one above it. -/
def pathNames (path : String) : List (List Char) :=
  (Text.pieces '/' path.toList).filter fun name => !([[], ['.'], ['.', '.']].contains name)

/-- Whether a path leads to a directory because it has no names. -/
def isDirectoryPath (path : String) : Bool := !path.isEmpty && (pathNames path).isEmpty

/-- Whether a path, or the first name in it, is longer than the file system takes. The bounds are
4095 and 255 bytes. -/
def isTooLong (path : String) : Bool :=
  4095 < path.utf8ByteSize || 255 < Text.byteCount ((pathNames path).headD [])

def Directory.readText (dir : Directory) (path : String) : Except ReadFailure String :=
  if path.toList.contains '\x00' then .error .nullInName
  else if isDirectoryPath path then .error .isDirectory
  else if isTooLong path then .error .nameTooLong
  else
    match dir.files.lookup path with
    | none => .error .notFound
    | some bytes =>
      match String.fromUTF8? bytes with
      | some text => .ok text
      | none => .error .notText

def Config.load (dir : Directory) (path : String) : Run Config := do
  let text ← Run.ofExcept ((dir.readText path).mapError (.configUnreadable path))
  let config ← Run.ofExcept (Config.ofText text)
  Run.logged [.configLoaded path config]
  return config

end EndpointHooks
