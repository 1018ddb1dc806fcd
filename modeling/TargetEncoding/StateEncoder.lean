import TargetEncoding.EncodeError

/-! # State encoders

Encoders do not encode actions themselves.  They say in which form an action is given and hand it to
a state encoder, which knows how its features are made and which interpreter to fall back on. -/

namespace TargetEncoding

/-- An action given by its name or by its text. -/
inductive ActionForm where
  | name (action : String)
  | text (action : String)
deriving DecidableEq

namespace ActionForm

/-- The form in which to give an action. -/
def ofAction (action : String) (asText : Bool) : ActionForm :=
  if asText then .text action else .name action

/-- The attribute of a message that carries the action. -/
def attr : ActionForm → Attribute
  | .name _ => .actionName
  | .text _ => .actionText

/-- The action itself. -/
def action : ActionForm → String
  | .name a => a
  | .text a => a

/-- The message that carries nothing but the action. -/
def message (form : ActionForm) : Message :=
  .ofText form.attr form.action

end ActionForm

/-- What encoders ask of a state encoder. -/
structure StateEncoder where
  /-- It has all it needs to encode actions. -/
  ready : Bool
  /-- The interpreter to use for a caller who supplies this one, or none. -/
  resolve : Option Interpreter → Option Interpreter
  /-- The features of an action, by group. -/
  encode : ActionForm → Interpreter → Except InterpretError FeatureGroups

namespace StateEncoder

/-- The interpreter for callers who supply none. -/
def defaultInterpreter (s : StateEncoder) : Option Interpreter := s.resolve none

/-- What encoders rely on: an interpreter that is supplied is the one to use. -/
def PrefersSupplied (s : StateEncoder) : Prop :=
  ∀ interpreter, s.resolve (some interpreter) = some interpreter

/-- The supplied interpreter is used, or else the default one. -/
theorem PrefersSupplied.resolve_eq {s : StateEncoder} (h : s.PrefersSupplied)
    (supplied : Option Interpreter) : s.resolve supplied = (supplied <|> s.defaultInterpreter) := by
  cases supplied with
  | none => rfl
  | some interpreter => exact h interpreter

end StateEncoder

end TargetEncoding
