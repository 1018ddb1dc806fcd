import TargetEncoding.Decimal.Shortest
import TargetEncoding.Text.Quoted

/-! # What can be wrong with a JSON text

A text is read from left to right, and the first problem ends the reading.  A `Fault` is a problem
of the notation: the text breaks off, or it is malformed.  A `Mismatch` is a problem of the content:
the notation is in order so far, but something else was expected. -/

namespace TargetEncoding.Json

/-- A text that is no JSON. -/
inductive Fault where
  | unexpectedEnd
  | malformed
deriving DecidableEq

/-- The text of the error. -/
def Fault.message : Fault → String
  | .unexpectedEnd => "unexpected end of text"
  | .malformed => "malformed text"

/-- What stands where something else is expected. -/
inductive Found where
  | null
  | boolean (b : Bool)
  | natural (n : Nat)
  | negative (n : Nat)
  | float (x : Float)
  | string (s : String)
  | sequence
  | map

/-- The words for it. -/
def Found.describe : Found → String
  | .null => "null"
  | .boolean b => "boolean `" ++ (if b then "true" else "false") ++ "`"
  | .natural n => "integer `" ++ decimal n ++ "`"
  | .negative n => "integer `-" ++ decimal n ++ "`"
  | .float x => "floating point `" ++ renderFloat x ++ "`"
  | .string s => "string " ++ quoted s
  | .sequence => "sequence"
  | .map => "map"

/-- Content that does not fit. -/
inductive Mismatch where
  | missingField (name : String)
  | duplicateField (name : String)
  | invalidType (found : Found) (expected : String)
  | invalidValue (found : Found) (expected : String)
  | invalidLength (length : Nat) (expected : String)

/-- The text of the error. -/
def Mismatch.message : Mismatch → String
  | .missingField name => "missing field `" ++ name ++ "`"
  | .duplicateField name => "duplicate field `" ++ name ++ "`"
  | .invalidType found expected =>
    "invalid type: " ++ found.describe ++ ", expected " ++ expected
  | .invalidValue found expected =>
    "invalid value: " ++ found.describe ++ ", expected " ++ expected
  | .invalidLength length expected =>
    "invalid length " ++ decimal length ++ ", expected " ++ expected

/-- Why a text cannot be read. -/
inductive ReadError where
  | fault (f : Fault)
  | mismatch (m : Mismatch)

/-- The text of the error. -/
def ReadError.message : ReadError → String
  | .fault f => f.message
  | .mismatch m => m.message

instance : MonadLift (Except Fault) (Except ReadError) := ⟨Except.mapError .fault⟩

end TargetEncoding.Json
