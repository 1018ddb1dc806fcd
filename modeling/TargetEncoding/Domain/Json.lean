import TargetEncoding.Domain
import TargetEncoding.Load

/-! # Domains in a JSON text -/

namespace TargetEncoding

open Json

/-- Reads labels; of an entity that is listed twice the last labels are taken. -/
def EntityLabels.read : Reader EntityLabels := fun o => do
  let labels ← readMembers readTextKey (readList readString) o
  return .ofList labels

namespace Domain

/-- The fields of a domain. -/
def record : Record Domain where
  name := "Domain"
  fields :=
    [.withDefault "action_names" (readList readString) [],
     .withDefault "action_texts" (readList readString) [],
     .withDefault "entities" (readList readString) [],
     .withDefault "roles" EntityLabels.read ∅,
     .withDefault "groups" EntityLabels.read ∅]
  make := fun (actionNames, actionTexts, entities, roles, groups, ()) =>
    { actionNames, actionTexts, entities, roles, groups }

/-- Parses a domain. -/
def parse (text : String) : Except LoadError Domain := parseAs record.read text

/-- Loads a domain from a file. -/
def load (path : String) (content : Option ByteArray) : Except LoadError Domain :=
  loadAs record.read path content

end Domain

end TargetEncoding
