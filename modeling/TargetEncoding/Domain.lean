import Std.Data.ExtTreeMap
import Std.Data.ExtTreeSet

/-! # Dialogue domains

A domain lists the actions a policy chooses from and the entities users mention.  An action is known
by a symbolic name or, if the bot just says something, by the text itself; names come first, and
the number of an action is its first position in that order. -/

namespace TargetEncoding

/-- Labels (roles or groups) for the mentions of an entity. -/
abbrev EntityLabels := Std.ExtTreeMap String (List String)

/-- The actions and entities of a dialogue. -/
structure Domain where
  actionNames : List String
  actionTexts : List String
  entities : List String
  roles : EntityLabels
  groups : EntityLabels

/-- The action is none of the domain's. -/
structure UnknownAction where
  action : String
deriving DecidableEq

/-- The text of the error. -/
def UnknownAction.message (e : UnknownAction) : String :=
  "unknown action '" ++ e.action ++ "': not part of the domain's action vocabulary"

/-- Adds labels behind those that an entity has. -/
def EntityLabels.add (labels : EntityLabels) (entity : String) (more : List String) :
    EntityLabels :=
  labels.insert entity (labels.getD entity [] ++ more)

/-- An entity with one of its labels, as one name. -/
def labelledEntity (entity label : String) : String :=
  entity ++ "#" ++ label

/-- Every entity that has labels, joined with each of them. -/
def EntityLabels.labelledEntities (labels : EntityLabels) : List String :=
  labels.toList.flatMap fun (entity, own) => own.map (labelledEntity entity)

/-- The first position of each name in a list. -/
def firstPositions (names : List String) : Std.ExtTreeMap String Nat :=
  names.zipIdx.foldl (fun positions (name, i) => positions.insertIfNew name i) ∅

namespace Domain

/-- The domain without roles and groups. -/
def ofLists (actionNames actionTexts entities : List String) : Domain :=
  ⟨actionNames, actionTexts, entities, ∅, ∅⟩

/-- Adds roles for an entity. -/
def addRoles (d : Domain) (entity : String) (roles : List String) : Domain :=
  { d with roles := d.roles.add entity roles }

/-- Adds groups for an entity. -/
def addGroups (d : Domain) (entity : String) (groups : List String) : Domain :=
  { d with groups := d.groups.add entity groups }

/-- The names of actions, followed by their texts. -/
def actions (d : Domain) : List String := d.actionNames ++ d.actionTexts

/-- The number of actions, repeated ones counted each time. -/
def numActions (d : Domain) : Nat := d.actionNames.length + d.actionTexts.length

/-- The first position of an action. -/
def index? (d : Domain) (action : String) : Option Nat := d.actions.idxOf? action

/-- The first position of an action that has to be known. -/
def index (d : Domain) (action : String) : Except UnknownAction Nat :=
  match d.index? action with
  | some i => .ok i
  | none => .error ⟨action⟩

/-- The first positions of all the actions, or the first action that is unknown. -/
def indices (d : Domain) (actions : List String) : Except UnknownAction (List Nat) :=
  actions.mapM d.index

/-- The action is one that the bot says verbatim. -/
def isActionText (d : Domain) (action : String) : Bool := d.actionTexts.contains action

/-- The names under which entities are tagged: each entity, and each joined with a role or a
group. -/
def entityNames (d : Domain) : Std.ExtTreeSet String :=
  .ofList (d.entities ++ (d.roles.labelledEntities ++ d.groups.labelledEntities))

/-- The names under which entities are tagged, in ascending order. -/
def entityStates (d : Domain) : List String := d.entityNames.toList

@[simp] theorem length_actions (d : Domain) : d.actions.length = d.numActions := by
  simp [actions, numActions]

end Domain

end TargetEncoding
