/-! # Attributes

A message has three sides that can carry text: what was said, the name of an action, and the text of
an action.  `PerAttribute` is one value for each of them. -/

namespace TargetEncoding

/-- A side of a message. -/
inductive Attribute where
  | text
  | actionName
  | actionText
deriving DecidableEq

namespace Attribute

/-- The written name. -/
def name : Attribute → String
  | .text => "text"
  | .actionName => "action_name"
  | .actionText => "action_text"

/-- The attributes in the order in which they are gone through. -/
def all : List Attribute := [.text, .actionName, .actionText]

/-- The attribute with the given name. -/
def ofName? (s : String) : Option Attribute :=
  all.find? (·.name == s)

theorem mem_all (a : Attribute) : a ∈ all := by
  cases a <;> simp [all]

end Attribute

/-- One value for each attribute. -/
structure PerAttribute (α : Type) where
  text : α
  actionName : α
  actionText : α

namespace PerAttribute

variable {α : Type}

/-- The same value for each attribute. -/
def replicate (a : α) : PerAttribute α := ⟨a, a, a⟩

/-- The value of one attribute. -/
def get (p : PerAttribute α) : Attribute → α
  | .text => p.text
  | .actionName => p.actionName
  | .actionText => p.actionText

/-- Replaces the value of one attribute. -/
def set (p : PerAttribute α) (attr : Attribute) (a : α) : PerAttribute α :=
  match attr with
  | .text => { p with text := a }
  | .actionName => { p with actionName := a }
  | .actionText => { p with actionText := a }

theorem get_set (p : PerAttribute α) (i j : Attribute) (a : α) :
    (p.set i a).get j = if i = j then a else p.get j := by
  cases i <;> cases j <;> rfl

@[simp] theorem get_set_self (p : PerAttribute α) (i : Attribute) (a : α) :
    (p.set i a).get i = a := by
  simp [get_set]

end PerAttribute

end TargetEncoding
