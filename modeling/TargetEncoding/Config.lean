/-! # Configuration

What a target encoder is made of, as training runs choose it. -/

namespace TargetEncoding

/-- The choices for a target encoder. -/
structure Config where
  /-- Tag entities with boundaries. -/
  boundaries : Bool
  /-- Encode actions. -/
  actions : Bool
  /-- Encode entities. -/
  entities : Bool
  /-- The size from which on a batch is spread over several workers. -/
  parallelThreshold : Nat
deriving DecidableEq

/-- The choices where none are given. -/
def Config.default : Config where
  boundaries := true
  actions := true
  entities := true
  parallelThreshold := 64

end TargetEncoding
