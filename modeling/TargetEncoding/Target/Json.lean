import TargetEncoding.Mention.Json
import TargetEncoding.Target

/-! # Targets in a JSON text -/

namespace TargetEncoding

open Json

/-- The fields of a target. -/
def Target.record : Record Target where
  name := "Target"
  fields :=
    [.required "action" readString,
     .withDefault "entity_data" (readOptional Utterance.record.read) none]
  make := fun (action, utterance, ()) => { action, utterance }

end TargetEncoding
