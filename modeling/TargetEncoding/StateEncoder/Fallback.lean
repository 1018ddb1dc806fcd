import TargetEncoding.StateEncoder

/-! # The fallback state encoder

It lets the interpreter find the features of an action and files them under the attribute that
carries it.  The name of a known action for which the interpreter finds nothing is encoded by its
position among the domain's actions, so that it is never left without features. -/

namespace TargetEncoding

/-- A state encoder that knows the positions of actions. -/
structure FallbackEncoder where
  positions : Std.ExtTreeMap String Nat
  numActions : Nat
  defaultInterpreter : Option Interpreter

namespace FallbackEncoder

/-- The encoder that knows no action. -/
def empty : FallbackEncoder := ⟨∅, 0, none⟩

/-- Takes over the actions of a domain in place of those it knew. -/
def prepare (e : FallbackEncoder) (d : Domain) : FallbackEncoder :=
  { e with positions := firstPositions d.actions, numActions := d.numActions }

/-- The encoder that knows the actions of a domain. -/
def ofDomain (d : Domain) : FallbackEncoder := empty.prepare d

/-- Sets the interpreter for callers who supply none. -/
def withDefault (e : FallbackEncoder) (interpreter : Interpreter) : FallbackEncoder :=
  { e with defaultInterpreter := some interpreter }

/-- The origin of features made from a position. -/
def oneHotOrigin : String := "one_hot_action"

/-- The row with a one in the column of a known action. -/
def oneHot? (e : FallbackEncoder) (action : String) : Option Feature :=
  e.positions[action]?.map fun column =>
    ⟨.sentence, .actionName, oneHotOrigin,
      .sparse ((SparseMatrix.empty 1 e.numActions).set 0 column 1)⟩

/-- The features for an action that the interpreter has none for. -/
def fallback (e : FallbackEncoder) : ActionForm → List Feature
  | .name action => (e.oneHot? action).toList
  | .text _ => []

/-- What the interpreter finds on the attribute of the action, or else the fallback. -/
def features (e : FallbackEncoder) (form : ActionForm) (answer : Option Message) : List Feature :=
  let found := answer.elim [] (·.featuresOf form.attr)
  if found.isEmpty then e.fallback form else found

/-- Files features under the name of an attribute; without features there is no group. -/
def group (attr : Attribute) (features : List Feature) : FeatureGroups :=
  if features.isEmpty then ∅ else (∅ : FeatureGroups).insert attr.name features

/-- The features of an action, by group. -/
def encode (e : FallbackEncoder) (form : ActionForm) (interpreter : Interpreter) :
    Except InterpretError FeatureGroups := do
  let answer ← interpreter form.message
  return group form.attr (e.features form answer)

/-- The encoder as the other encoders see it: ready once it knows an action. -/
def toStateEncoder (e : FallbackEncoder) : StateEncoder where
  ready := !e.positions.isEmpty
  resolve supplied := supplied <|> e.defaultInterpreter
  encode := e.encode

theorem prefersSupplied_toStateEncoder (e : FallbackEncoder) : e.toStateEncoder.PrefersSupplied :=
  fun _ => rfl

end FallbackEncoder

end TargetEncoding
