import TargetEncoding.Json.Record
import TargetEncoding.TagTable

/-! # Tag tables in a JSON text

Tag tables are exported after training and read back for inference.  `TagTable.write` gives the
compact text of any table, consistent or not, and `TagTable.parse` reads it. -/

namespace TargetEncoding.TagTable

open Json

/-- Reads the numbers of tags; of a tag that is listed twice the last number is taken. -/
def readIdOf : Reader (Std.ExtTreeMap String Nat) := fun o => do
  let members ← readMembers readTextKey readIndex o
  return .ofList members

/-- Reads the tags of numbers; of a number that is listed twice the last tag is taken. -/
def readTagOf : Reader (Std.ExtTreeMap Nat String) := fun o => do
  let members ← readMembers readIndexKey readString o
  return .ofList members

/-- The fields of a tag table. -/
def record : Record TagTable where
  name := "EntityTagSpec"
  fields :=
    [.required "tag_name" readString,
     .required "tags_to_ids" readIdOf,
     .required "ids_to_tags" readTagOf,
     .required "num_tags" readIndex]
  make := fun (name, idOf, tagOf, numTags, ()) => { name, idOf, tagOf, numTags }

/-- Parses a tag table. -/
def parse (text : String) : Except ReadError TagTable := readText record.read text

/-- Written members with commas between them and braces around them. -/
def writeObject (members : List (List Char)) : List Char :=
  '{' :: [','].intercalate members ++ ['}']

/-- A member with its key. -/
def writeMember (key : String) (value : List Char) : List Char :=
  StringLiteral.write key ++ ':' :: value

/-- The compact text of a table. -/
def write (t : TagTable) : String :=
  String.ofList <| writeObject
    [writeMember "tag_name" (StringLiteral.write t.name),
     writeMember "tags_to_ids" <| writeObject <|
       t.idOf.toList.map fun (tag, id) => writeMember tag (decimalDigits id),
     writeMember "ids_to_tags" <| writeObject <|
       t.tagOf.toList.map fun (id, tag) => writeMember (decimal id) (StringLiteral.write tag),
     writeMember "num_tags" (decimalDigits t.numTags)]

end TargetEncoding.TagTable
