import TargetEncoding.Proofs.MessageEdits
import TargetEncoding.Proofs.ReadOutcomes

/-!
# Mentions and the text they speak of

Only an utterance brings mentions into a message, and it brings a text along.  A text can be
replaced later, but no change takes it away, so a message never has mentions without one.  What the
mentions are held against is the text that was set last: it need not be the one that they were made
for, and mentions that used to fit may no longer do so.

## Key results

- `Message.get_texts_edits`: the text of an attribute is the one that was set last
- `Message.Grounded.edit`, `Message.Grounded.edits`: a change, and any number of them, leave
  mentions with a text
- `Message.mentions_have_text`: so reading fails only for mentions that do not fit
-/

namespace TargetEncoding

/-! ## Changes step by step -/

/-- The text that a change gives to an attribute. -/
def MessageEdit.textOf? (attr : Attribute) : MessageEdit → Option String
  | .setText a text => if a = attr then some text else none
  | _ => none

/-- The text that an attribute is given last. -/
def lastText? (attr : Attribute) (changes : List MessageEdit) : Option String :=
  changes.reverse.findSome? (MessageEdit.textOf? attr)

theorem lastText?_cons (attr : Attribute) (change : MessageEdit) (changes : List MessageEdit) :
    lastText? attr (change :: changes) = (lastText? attr changes).or (change.textOf? attr) := by
  rw [lastText?, List.reverse_cons, List.findSome?_append, List.findSome?_singleton]
  rfl

namespace Message

variable {m : Message}

/-- What every single change preserves holds after all of them. -/
theorem edits_preserve {P : Message → Prop} (hstep : ∀ m change, P m → P (m.edit change))
    (h : P m) (changes : List MessageEdit) : P (m.edits changes) := by
  induction changes generalizing m with
  | nil => exact h
  | cons change changes ih => exact ih (hstep m change h)

/-! ## The text of an attribute -/

theorem get_texts_edit (m : Message) (change : MessageEdit) (attr : Attribute) :
    (m.edit change).texts.get attr = (change.textOf? attr).or (m.texts.get attr) := by
  cases change with
  | setText a text =>
    show (m.texts.set a (some text)).get attr = _
    rw [PerAttribute.get_set, MessageEdit.textOf?]
    by_cases h : a = attr <;> simp [h]
  | interpret w =>
    obtain ⟨tokens, features, hread⟩ := exists_edit_interpret m w
    rw [hread]
    rfl
  | _ => rfl

/-- An attribute has the text that it was given last, or else the one that it had. -/
theorem get_texts_edits (m : Message) (changes : List MessageEdit) (attr : Attribute) :
    (m.edits changes).texts.get attr = (lastText? attr changes).or (m.texts.get attr) := by
  induction changes generalizing m with
  | nil => rfl
  | cons change changes ih =>
    rw [edits_cons, ih, get_texts_edit, lastText?_cons, Option.or_assoc]

/-! ## Mentions have a text -/

/-- There are no mentions without a text that they speak of. -/
def Grounded (m : Message) : Prop :=
  m.mentions ≠ [] → ∃ text, m.texts.text = some text

theorem Grounded.edit (h : m.Grounded) (change : MessageEdit) : (m.edit change).Grounded := by
  intro hmentions
  rw [mentions_edit] at hmentions
  obtain ⟨text, htext⟩ := h hmentions
  -- a text is there already, and the change can only put another one in its place
  have hget : m.texts.get .text = some text := htext
  have hedit := get_texts_edit m change .text
  rw [hget] at hedit
  cases hset : change.textOf? .text with
  | none =>
    rw [hset] at hedit
    exact ⟨text, hedit⟩
  | some newer =>
    rw [hset] at hedit
    exact ⟨newer, hedit⟩

theorem Grounded.edits (h : m.Grounded) (changes : List MessageEdit) :
    (m.edits changes).Grounded :=
  edits_preserve (fun _ change hm => hm.edit change) h changes

end Message

/-! ## Where mentions come from -/

/-- How a message comes about before it is changed. -/
inductive MessageOrigin where
  | empty
  | ofText (attr : Attribute) (text : String)
  | ofUtterance (u : Utterance)

namespace MessageOrigin

/-- The message as it comes about. -/
def message : MessageOrigin → Message
  | .empty => .empty
  | .ofText attr text => .ofText attr text
  | .ofUtterance u => .ofUtterance u

/-- The mentions that a message is created with. -/
def mentions : MessageOrigin → List Mention
  | .ofUtterance u => u.mentions
  | _ => []

theorem mentions_message (origin : MessageOrigin) : origin.message.mentions = origin.mentions := by
  cases origin <;> rfl

theorem grounded (origin : MessageOrigin) : origin.message.Grounded := by
  intro hmentions
  cases origin with
  | empty => exact absurd rfl hmentions
  | ofText attr text => exact absurd rfl hmentions
  | ofUtterance u => exact ⟨u.text, rfl⟩

end MessageOrigin

/-! ## What is held against the text -/

theorem Mention.not_fitsIn_iff {mention : Mention} {length : Nat} :
    ¬ mention.FitsIn length ↔
      mention.start = mention.stop ∨ mention.stop < mention.start ∨ length < mention.stop := by
  unfold Mention.FitsIn
  omega

namespace Message

variable {m : Message}

/-- With a text there, what is refused is a mention that does not fit into it. -/
theorem Grounded.exists_unfit (h : m.Grounded) {e : InterpretError}
    (he : m.checkMentions = .error e) :
    ∃ text, m.texts.text = some text ∧ ∃ mention ∈ m.mentions, ¬ mention.FitsIn text.length ∧
      e = .invalidSpan mention.entity mention.start mention.stop text.length := by
  cases checkMentions_eq_error_iff.1 he with
  | missingText hnone hmentions =>
    obtain ⟨text, htext⟩ := h hmentions
    rw [hnone] at htext
    cases htext
  | @invalidSpan text before after mention htext hmentions _ hunfit =>
    have hmem : mention ∈ m.mentions := by
      rw [hmentions]
      exact List.mem_append_right _ List.mem_cons_self
    exact ⟨text, htext, mention, hmem, hunfit, rfl⟩

/-- With a text there, mentions are refused exactly if one of them does not fit into it. -/
theorem Grounded.refused_iff (h : m.Grounded) :
    (∃ e, m.checkMentions = .error e) ↔
      ∃ text, m.texts.text = some text ∧ ∃ mention ∈ m.mentions, ¬ mention.FitsIn text.length := by
  constructor
  · intro hrefused
    obtain ⟨e, he⟩ := hrefused
    obtain ⟨text, htext, mention, hmention, hunfit, _⟩ := h.exists_unfit he
    exact ⟨text, htext, mention, hmention, hunfit⟩
  · intro hunfit
    obtain ⟨text, htext, mention, hmention, hunfit⟩ := hunfit
    cases hcheck : m.checkMentions with
    | error e => exact ⟨e, rfl⟩
    | ok u =>
      -- what is let through fits
      obtain ⟨text', htext', hfit⟩ := exists_fitsIn_of_checkMentions hcheck hmention
      obtain rfl : text = text' := Option.some.inj (htext.symm.trans htext')
      exact absurd hfit hunfit

/-- However a message comes about and is changed, its mentions are those that it was created with,
and if there are any, it has a text: the one that was set last, or else the first one.  So no
reading fails for want of a text; it fails exactly if a mention is empty, runs backwards, or ends
behind the text as it is now. -/
theorem mentions_have_text (origin : MessageOrigin) (changes : List MessageEdit) :
    let m := origin.message.edits changes
    m.mentions = origin.mentions ∧
      m.texts.text = (lastText? .text changes).or origin.message.texts.text ∧
      (m.mentions ≠ [] → ∃ text, m.texts.text = some text) ∧
      ∀ w : WordInterpreter,
        w.interpret m ≠ .error .missingText ∧
        ((∃ e, w.interpret m = .error e) ↔
          ∃ text, m.texts.text = some text ∧ ∃ mention ∈ origin.mentions,
            mention.start = mention.stop ∨ mention.stop < mention.start ∨
              text.length < mention.stop) := by
  intro m
  have hmentions : m.mentions = origin.mentions := by
    rw [mentions_edits, origin.mentions_message]
  have hground : m.Grounded := origin.grounded.edits changes
  refine ⟨hmentions, get_texts_edits _ changes .text, hground, ?_⟩
  intro w
  constructor
  · intro hmissing
    obtain ⟨_, _, _, _, _, hunfit⟩ :=
      hground.exists_unfit (WordInterpreter.interpret_eq_error_iff.1 hmissing)
    cases hunfit
  · simp only [WordInterpreter.interpret_eq_error_iff, hground.refused_iff, hmentions,
      Mention.not_fitsIn_iff]

/-- A mention that fits when the message is read for the first time ends behind the text that is set
after that. -/
theorem mentions_have_text_shortened :
    let u : Utterance := ⟨"to paris", [⟨3, 8, "paris", "city", none, none⟩]⟩
    let origin := MessageOrigin.ofUtterance u
    let changes : List MessageEdit := [.interpret .plain, .setText .text "to rome"]
    (¬ ∃ e, WordInterpreter.plain.interpret origin.message = .error e) ∧
      (origin.message.edits changes).texts.text = some "to rome" ∧
      ∃ e, WordInterpreter.plain.interpret (origin.message.edits changes) = .error e := by
  intro u origin changes
  obtain ⟨_, _, _, hbefore⟩ := mentions_have_text origin []
  obtain ⟨_, hlast, _, hafter⟩ := mentions_have_text origin changes
  refine ⟨?_, hlast, ?_⟩
  · intro hfails
    obtain ⟨text, htext, mention, hmention, hunfit⟩ := (hbefore .plain).2.1 hfails
    obtain rfl : "to paris" = text := Option.some.inj htext
    obtain rfl := List.mem_singleton.1 hmention
    revert hunfit
    decide
  · apply (hafter .plain).2.2
    exact ⟨"to rome", hlast, _, List.mem_cons_self, .inr (.inr (by decide))⟩

end Message

end TargetEncoding
