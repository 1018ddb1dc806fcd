import TargetEncoding.Json.Reader

/-! # Records in a JSON text

A record has named fields, each with a reader and perhaps a value to fall back on.  It is written as
an object, with its fields in any order and others between them, or as an array of its fields in
their own order, from whose end fields with a fall-back may be missing. -/

namespace TargetEncoding.Json

/-- A field of a record. -/
structure Field where
  Value : Type
  name : String
  read : Reader Value
  fallback : Option Value

namespace Field

/-- A field that must be there. -/
def required {α : Type} (name : String) (read : Reader α) : Field := ⟨α, name, read, none⟩

/-- A field that falls back on a value. -/
def withDefault {α : Type} (name : String) (read : Reader α) (fallback : α) : Field :=
  ⟨α, name, read, some fallback⟩

end Field

/-- A value for each field. -/
def Values : List Field → Type
  | [] => Unit
  | f :: fs => f.Value × Values fs

/-- A value for each field that has been met. -/
def Draft : List Field → Type
  | [] => Unit
  | f :: fs => Option f.Value × Draft fs

namespace Draft

/-- The draft before any field is met. -/
def blank : (fs : List Field) → Draft fs
  | [] => ()
  | _ :: fs => (none, blank fs)

/-- Enters a member.  A member that is no field is passed over. -/
def enter : (fs : List Field) → Draft fs → String → Outline → Except ReadError (Draft fs)
  | [], (), _, _ => .ok ()
  | f :: fs, (value, draft), key, o =>
    if key = f.name then
      match value with
      | some _ => .error (.mismatch (.duplicateField key))
      | none => do
        let a ← f.read o
        return (some a, draft)
    else do
      let draft ← enter fs draft key o
      return (value, draft)

/-- Enters a member whose key is yet to be read. -/
def enterMember (fs : List Field) (draft : Draft fs) (member : List Char × Outline) :
    Except ReadError (Draft fs) := do
  let key ← readTextKey member.1
  enter fs draft key member.2

/-- Fills in what fields fall back on; fails with the first that is missing. -/
def complete : (fs : List Field) → Draft fs → Except ReadError (Values fs)
  | [], () => .ok ()
  | f :: fs, (value, draft) => do
    match value <|> f.fallback with
    | some a =>
      let values ← complete fs draft
      return (a, values)
    | none => throw (.mismatch (.missingField f.name))

end Draft

/-- Reads the fields, the first of which has the place `place`, from the items of an array. -/
def Values.ofItems (expected : String) (broken : Option Fault) :
    (fs : List Field) → (place : Nat) → List Outline → Except ReadError (Values fs)
  | [], _, [] => requireWhole broken
  | [], _, _ :: _ => .error (.fault .malformed)
  | f :: fs, place, item :: items => do
    let a ← f.read item
    let values ← ofItems expected broken fs (place + 1) items
    return (a, values)
  | f :: fs, place, [] => do
    requireWhole broken
    match f.fallback with
    | some a =>
      let values ← ofItems expected broken fs (place + 1) []
      return (a, values)
    | none => throw (.mismatch (.invalidLength place expected))

/-- A type that is written as a record. -/
structure Record (α : Type) where
  name : String
  fields : List Field
  make : Values fields → α

namespace Record

variable {α : Type}

/-- What errors say is expected. -/
def expected (r : Record α) : String := "struct " ++ r.name

/-- What errors say is expected of an array that is too short. -/
def expectedItems (r : Record α) : String :=
  r.expected ++ " with " ++ decimal r.fields.length ++ " elements"

/-- Reads a record. -/
def read (r : Record α) : Reader α
  | .array items broken => do
    let values ← Values.ofItems r.expectedItems broken r.fields 0 items
    return r.make values
  | .object members broken => do
    let draft ← members.foldlM (Draft.enterMember r.fields) (Draft.blank r.fields)
    requireWhole broken
    let values ← draft.complete r.fields
    return r.make values
  | o => o.unexpected r.expected

end Record

end TargetEncoding.Json
