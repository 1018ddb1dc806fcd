import Std.Data.ExtTreeSet
import TargetEncoding.Encoder

/-! # Encoding actions

The next action of the bot is encoded by the state encoder.  The encoder's own part is to tell
whether an action is given by its text or by its name. -/

namespace TargetEncoding

/-- What an action encoder takes over when it is set up. -/
structure ActionEncoder.Config where
  stateEncoder : StateEncoder
  /-- The actions that the bot says verbatim. -/
  texts : Std.ExtTreeSet String

/-- Encodes the next action. -/
structure ActionEncoder where
  config : Option ActionEncoder.Config

namespace ActionEncoder

/-- The encoder before it is set up. -/
def unconfigured : ActionEncoder := ⟨none⟩

/-- The encoder with its configuration known beforehand. -/
def ofConfig (stateEncoder : StateEncoder) (texts : List String) : ActionEncoder :=
  ⟨some ⟨stateEncoder, .ofList texts⟩⟩

/-- The configuration can be used: there are texts, and the state encoder is ready. -/
def Config.isUsable (c : Config) : Bool :=
  c.stateEncoder.ready && !c.texts.isEmpty

/-- The form in which the state encoder is given an action. -/
def Config.form (c : Config) (action : String) : ActionForm :=
  .ofAction action (c.texts.contains action)

instance : Encoder ActionEncoder where
  component := .actionEncoder
  isReady e := e.config.any Config.isUsable
  configure d s := set (ofConfig s d.actionTexts)

/-- The configuration, once it can be used. -/
def readyConfig (e : ActionEncoder) : Except SetupError Config :=
  match e.config with
  | some c => if c.isUsable then .ok c else .error (.notReady .actionEncoder)
  | none => .error (.notReady .actionEncoder)

/-- The features of an action, by group. -/
def encode (e : ActionEncoder) (action : String) (supplied : Option Interpreter) :
    Except EncodeError FeatureGroups := do
  let c ← e.readyConfig
  match c.stateEncoder.resolve supplied with
  | none => throw (.setup (.missingInterpreter .actionEncoder))
  | some interpreter => c.stateEncoder.encode (c.form action) interpreter

end ActionEncoder

end TargetEncoding
