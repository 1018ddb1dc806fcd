import TargetEncoding.Config
import TargetEncoding.Encoder.Action
import TargetEncoding.Encoder.Entity
import TargetEncoding.Target

/-! # Target encoders

A target encoder joins an action encoder and an entity encoder, either of which may be left out.  It
is set up as a whole or not at all, and then encodes single examples and batches.  A batch gives the
same answers however it is worked off; only when several examples of a large batch fail does it stay
open, up to a `FailureChoice`, which failure is reported. -/

namespace TargetEncoding

/-- The features of one example.  A part is missing when its encoder, or what it encodes, is. -/
structure TargetFeatures where
  action : Option FeatureGroups
  entities : Option FeatureGroups

/-- Encodes the targets of training examples. -/
structure TargetEncoder where
  action : Option ActionEncoder
  entity : Option EntityEncoder
  /-- The size from which on a batch is spread over several workers. -/
  parallelThreshold : Nat

/-- How workers that share a batch agree on the failure to report. -/
structure FailureChoice where
  choose : EncodeError → List EncodeError → EncodeError
  choose_mem : ∀ e es, choose e es ∈ e :: es

/-- Reports the failure of the earliest example. -/
def FailureChoice.earliest : FailureChoice where
  choose e _ := e
  choose_mem _ _ := List.mem_cons_self

/-- All values or, if there are failures, the one that is chosen. -/
def FailureChoice.collect (choice : FailureChoice) {α : Type}
    (results : List (Except EncodeError α)) : Except EncodeError (List α) :=
  match results.filterMap fun | .error e => some e | .ok _ => none with
  | [] => .ok (results.filterMap (·.toOption))
  | e :: es => .error (choice.choose e es)

namespace TargetEncoder

/-- The encoder made of the given parts, with the usual threshold. -/
def ofParts (action : Option ActionEncoder) (entity : Option EntityEncoder) : TargetEncoder :=
  ⟨action, entity, Config.default.parallelThreshold⟩

/-- The encoder with the parts that a configuration asks for, not yet set up. -/
def ofConfig (c : Config) : TargetEncoder where
  action := if c.actions then some .unconfigured else none
  entity := if c.entities then some (.unconfigured c.boundaries) else none
  parallelThreshold := c.parallelThreshold

/-- The table of entity tags, once there is one. -/
def table? (e : TargetEncoder) : Option TagTable := e.entity.bind (·.table?)

/-- A copy of a part that is set up, if there is such a part. -/
def setupPart {ε : Type} [Encoder ε] (part : Option ε) (d : Domain) (s : StateEncoder) :
    Except SetupError (Option ε) :=
  part.mapM (Encoder.setupCopy · d s)

/-- Sets up every part.  The copies take the place of the parts once all of them are set up. -/
def setup (d : Domain) (s : StateEncoder) : SetupM TargetEncoder Unit := do
  let e ← get
  let action ← setupPart e.action d s
  let entity ← setupPart e.entity d s
  set { e with action, entity }

/-- Every part is ready. -/
def isReady (e : TargetEncoder) : Bool :=
  e.action.all Encoder.isReady && e.entity.all Encoder.isReady

/-- Fails with the first part that is not ready. -/
def requireReady (e : TargetEncoder) : Except SetupError Unit := do
  e.action.forM Encoder.requireReady
  e.entity.forM Encoder.requireReady

/-- The features of an action, if there is an encoder for it. -/
def encodeAction (e : TargetEncoder) (action : String) (supplied : Option Interpreter) :
    Except EncodeError (Option FeatureGroups) :=
  e.action.mapM fun encoder => do
    Encoder.requireReady encoder
    encoder.encode action supplied

/-- The features of an utterance, if there is an encoder for it. -/
def encodeUtterance (e : TargetEncoder) (u : Utterance) (supplied : Option Interpreter) :
    Except EncodeError (Option FeatureGroups) :=
  e.entity.mapM fun encoder => do
    Encoder.requireReady encoder
    encoder.encode u supplied

/-- The features of one example, the action going first. -/
def encode (e : TargetEncoder) (t : Target) (supplied : Option Interpreter) :
    Except EncodeError TargetFeatures := do
  let action ← e.encodeAction t.action supplied
  let entities ← match t.utterance with
    | some u => e.encodeUtterance u supplied
    | none => pure none
  return { action, entities }

/-- The features of several examples, in order.  Nothing is encoded unless every part is ready. -/
def encodeBatch (e : TargetEncoder) (choice : FailureChoice) (targets : List Target)
    (supplied : Option Interpreter) : Except EncodeError (List TargetFeatures) := do
  e.requireReady
  if max e.parallelThreshold 1 ≤ targets.length then
    choice.collect (targets.map (e.encode · supplied))
  else
    targets.mapM (e.encode · supplied)

end TargetEncoder

end TargetEncoding
