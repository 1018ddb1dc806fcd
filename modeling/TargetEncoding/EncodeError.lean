import TargetEncoding.Domain
import TargetEncoding.Interpreter

/-! # Errors of encoders

An encoder that is set up twice, used too early or given unusable input raises a `SetupError`.
Encoding an example raises these, and passes on what the domain or the interpreter complains of. -/

namespace TargetEncoding

/-- The encoders that errors speak of. -/
inductive Component where
  | actionEncoder
  | actionIndexer
  | entityEncoder
deriving DecidableEq

/-- The name in error texts. -/
def Component.title : Component → String
  | .actionEncoder => "ActionFeaturizer"
  | .actionIndexer => "ActionIndexer"
  | .entityEncoder => "EntityTagFeaturizer"

/-- An encoder is in the wrong state for what it is asked, or lacks something it needs. -/
inductive SetupError where
  | notReady (component : Component)
  | alreadyConfigured (component : Component)
  /-- An entity has the name that stands for no entity. -/
  | reservedEntity (entity : String)
  | missingInterpreter (component : Component)
deriving DecidableEq

/-- The text of the error. -/
def SetupError.message : SetupError → String
  | .notReady c => "expected " ++ c.title ++ " to have been set up with `setup()`"
  | .alreadyConfigured c => "expected " ++ c.title ++ " not to have been set up before"
  | .reservedEntity entity =>
    "entity '" ++ entity ++ "' collides with the reserved no-entity tag"
  | .missingInterpreter c =>
    c.title ++ " has no interpreter: none was supplied and the state featurizer has no default"

/-- Why an example cannot be encoded. -/
inductive EncodeError where
  | setup (e : SetupError)
  | unknownAction (e : UnknownAction)
  | interpret (e : InterpretError)
deriving DecidableEq

/-- The text of the error. -/
def EncodeError.message : EncodeError → String
  | .setup e => e.message
  | .unknownAction e => e.message
  | .interpret e => e.message

instance : MonadLift (Except SetupError) (Except EncodeError) := ⟨Except.mapError .setup⟩
instance : MonadLift (Except UnknownAction) (Except EncodeError) := ⟨Except.mapError .unknownAction⟩
instance : MonadLift (Except InterpretError) (Except EncodeError) := ⟨Except.mapError .interpret⟩

end TargetEncoding
