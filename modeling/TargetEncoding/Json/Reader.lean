import TargetEncoding.Json.Outline

/-! # Readers of JSON values

A reader says what value is expected and turns the outline of a text into it.  `readText` applies a
reader to a whole text. -/

namespace TargetEncoding.Json

/-- Takes a value out of an outline. -/
abbrev Reader (α : Type) := Outline → Except ReadError α

/-- What stands at a place; numbers and strings are read to tell. -/
def Outline.found : Outline → Except ReadError Found
  | .absent f => throw (.fault f)
  | .null => return .null
  | .boolean b => return .boolean b
  | .number source => do
    let (n, _) ← Numeral.read source
    return n.found
  | .string source => do
    let (content, _) ← StringLiteral.read source
    return .string (String.ofList content)
  | .array _ _ => return .sequence
  | .object _ _ => return .map

/-- Complains that something else was expected. -/
def Outline.unexpected {α : Type} (o : Outline) (expected : String) : Except ReadError α := do
  let found ← o.found
  throw (.mismatch (.invalidType found expected))

/-- Fails if items or members end in a fault. -/
def requireWhole : Option Fault → Except ReadError Unit
  | none => .ok ()
  | some f => .error (.fault f)

/-- Reads a truth value. -/
def readBool : Reader Bool
  | .boolean b => return b
  | o => o.unexpected "a boolean"

/-- Reads a text. -/
def readString : Reader String
  | .string source => do
    let (content, _) ← StringLiteral.read source
    return String.ofList content
  | o => o.unexpected "a string"

/-- How an index is called in errors. -/
def indexName : String := "usize"

/-- A number as an index. -/
def Number.toIndex : Number → Except ReadError Nat
  | .natural n => .ok n
  | .negative n => .error (.mismatch (.invalidValue (.negative n) indexName))
  | .float x => .error (.mismatch (.invalidType (.float x) indexName))

/-- Reads an index. -/
def readIndex : Reader Nat
  | .number source => do
    let (n, _) ← Numeral.read source
    n.toIndex
  | o => o.unexpected indexName

/-- Reads a value that may be null. -/
def readOptional {α : Type} (read : Reader α) : Reader (Option α)
  | .null => return none
  | o => some <$> read o

/-- Reads a list. -/
def readList {α : Type} (read : Reader α) : Reader (List α)
  | .array items broken => do
    let values ← items.mapM read
    requireWhole broken
    return values
  | o => o.unexpected "a sequence"

/-- Takes the key of a member out of the text from behind its opening quote. -/
abbrev KeyReader (κ : Type) := List Char → Except ReadError κ

/-- Reads a key that is any text. -/
def readTextKey : KeyReader String := fun source => do
  let (content, _) ← StringLiteral.read source
  return String.ofList content

/-- Reads a key that is an index between quotes. -/
def readIndexKey : KeyReader Nat := fun source => do
  if source.head?.any fun c => c = '-' || c.isDigit then
    let (n, rest) ← Numeral.read source
    let i ← n.toIndex
    if rest.head? = some '"' then return i else throw (.fault .malformed)
  else throw (.fault .malformed)

/-- Reads the members of a map, in the order of the text. -/
def readMembers {κ α : Type} (readKey : KeyReader κ) (read : Reader α) : Reader (List (κ × α))
  | .object members broken => do
    let values ← members.mapM fun (key, value) => do
      let k ← readKey key
      let a ← read value
      return (k, a)
    requireWhole broken
    return values
  | o => o.unexpected "a map"

/-- Reads a whole text that holds one value. -/
def readText {α : Type} (read : Reader α) (text : String) : Except ReadError α := do
  let (outline, after) := Outline.ofText text.toList
  let a ← read outline
  let rest ← (after : Except Fault (List Char))
  if (skipBlanks rest).isEmpty then return a else throw (.fault .malformed)

end TargetEncoding.Json
