import TargetEncoding.Json.Record

/-! # Loading files

Domains and configurations are kept in files.  Loading takes what a file holds, if there is such a
file, and reads it as JSON. -/

namespace TargetEncoding

/-- Why a file cannot be read as a text. -/
inductive FileFault where
  | notFound
  | notText
deriving DecidableEq

/-- The text of the error. -/
def FileFault.message : FileFault → String
  | .notFound => "No such file or directory (os error 2)"
  | .notText => "stream did not contain valid UTF-8"

/-- Why something cannot be loaded. -/
inductive LoadError where
  | read (path : String) (f : FileFault)
  | parse (e : Json.ReadError)

/-- The text of the error. -/
def LoadError.message : LoadError → String
  | .read path f => "failed to read " ++ path ++ ": " ++ f.message
  | .parse e => "failed to parse JSON: " ++ e.message

/-- The text that a file holds. -/
def fileText (content : Option ByteArray) : Except FileFault String :=
  match content with
  | none => .error .notFound
  | some bytes =>
    match String.fromUTF8? bytes with
    | some text => .ok text
    | none => .error .notText

/-- Parses a text that holds one value. -/
def parseAs {α : Type} (read : Json.Reader α) (text : String) : Except LoadError α :=
  (Json.readText read text).mapError .parse

/-- Loads the value that the file at `path` holds. -/
def loadAs {α : Type} (read : Json.Reader α) (path : String) (content : Option ByteArray) :
    Except LoadError α := do
  let text ← (fileText content).mapError (.read path)
  parseAs read text

end TargetEncoding
