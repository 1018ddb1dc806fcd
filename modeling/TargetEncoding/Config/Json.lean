import TargetEncoding.Config
import TargetEncoding.Load

/-! # Configurations in a JSON text -/

namespace TargetEncoding.Config

open Json

/-- The fields of a configuration. -/
def record : Record Config where
  name := "TargetFeaturizerConfig"
  fields :=
    [.withDefault "bilou_tagging" readBool Config.default.boundaries,
     .withDefault "featurize_actions" readBool Config.default.actions,
     .withDefault "featurize_entities" readBool Config.default.entities,
     .withDefault "parallel_threshold" readIndex Config.default.parallelThreshold]
  make := fun (boundaries, actions, entities, parallelThreshold, ()) =>
    { boundaries, actions, entities, parallelThreshold }

/-- Parses a configuration. -/
def parse (text : String) : Except LoadError Config := parseAs record.read text

/-- Loads a configuration from a file. -/
def load (path : String) (content : Option ByteArray) : Except LoadError Config :=
  loadAs record.read path content

end TargetEncoding.Config
