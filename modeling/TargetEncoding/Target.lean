import TargetEncoding.Mention

/-! # Targets

The target of a training example: the action to predict and, if the example has something the user
said, the utterance with its entities. -/

namespace TargetEncoding

/-- What is to be predicted for one example. -/
structure Target where
  action : String
  utterance : Option Utterance
deriving DecidableEq

end TargetEncoding
