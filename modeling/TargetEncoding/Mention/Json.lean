import TargetEncoding.Json.Record
import TargetEncoding.Mention

/-! # Mentions and utterances in a JSON text -/

namespace TargetEncoding

open Json

/-- The fields of a mention. -/
def Mention.record : Record Mention where
  name := "EntityAnnotation"
  fields :=
    [.required "start" readIndex,
     .required "end" readIndex,
     .withDefault "value" readString "",
     .required "entity" readString,
     .withDefault "role" (readOptional readString) none,
     .withDefault "group" (readOptional readString) none]
  make := fun (start, stop, value, entity, role, group, ()) =>
    { start, stop, value, entity, role, group }

/-- The fields of an utterance. -/
def Utterance.record : Record Utterance where
  name := "EntityData"
  fields :=
    [.withDefault "text" readString "",
     .withDefault "entities" (readList Mention.record.read) []]
  make := fun (text, mentions, ()) => { text, mentions }

end TargetEncoding
