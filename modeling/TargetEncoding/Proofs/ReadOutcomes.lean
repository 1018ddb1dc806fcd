import TargetEncoding.Proofs.Interpretation

/-!
# What comes of reading a message

A word interpreter has three answers.  It refuses mentions that cannot be those of the spoken text;
it finds nothing to read; or it answers the message with new tokens for every text and with new
features behind the old ones.  This holds of messages in any state: tokens of older texts, features
of other components and stored tags may be there, and several attributes may carry text.

## Key results

- `Message.checkMentions_eq_error_iff`: which mentions are refused, by the spoken text alone
- `WordInterpreter.isReading_readAll`: what reading changes, and what it leaves alone
- `WordInterpreter.interpret_outcomes`: the three answers, each with what it means
-/

namespace TargetEncoding

/-! ## Mentions that are refused -/

/-- Why mentions are refused for what was said.  Nothing else of a message plays a part. -/
inductive MentionsRefused (spoken : Option String) (mentions : List Mention) :
    InterpretError → Prop where
  /-- There are mentions, but no text. -/
  | missingText (hspoken : spoken = none) (hmentions : mentions ≠ []) :
      MentionsRefused spoken mentions .missingText
  /-- This mention is the first that does not fit into the text. -/
  | invalidSpan {text : String} {before after : List Mention} {mention : Mention}
      (hspoken : spoken = some text) (hmentions : mentions = before ++ mention :: after)
      (hbefore : ∀ b ∈ before, b.FitsIn text.length) (hunfit : ¬ mention.FitsIn text.length) :
      MentionsRefused spoken mentions
        (.invalidSpan mention.entity mention.start mention.stop text.length)

namespace Message

variable {m : Message}

theorem checkMentions_eq_error_iff {e : InterpretError} :
    m.checkMentions = .error e ↔ MentionsRefused m.texts.text m.mentions e := by
  constructor
  · intro h
    cases htext : m.texts.text with
    | none =>
      by_cases hmentions : m.mentions = []
      · rw [checkMentions_of_mentions_eq_nil hmentions] at h
        cases h
      · rw [checkMentions_of_no_text htext hmentions] at h
        cases h
        exact .missingText rfl hmentions
    | some text =>
      rw [checkMentions_of_text htext] at h
      cases hfind : m.mentions.find? fun mention => ¬ mention.FitsIn text.length with
      | none =>
        rw [hfind] at h
        cases h
      | some mention =>
        rw [hfind] at h
        cases h
        obtain ⟨hunfit, before, after, hmentions, hbefore⟩ :=
          List.find?_eq_some_iff_append.1 hfind
        exact .invalidSpan rfl hmentions (by simpa using hbefore) (by simpa using hunfit)
  · intro h
    cases h with
    | missingText htext hmentions => exact checkMentions_of_no_text htext hmentions
    | invalidSpan htext hmentions hbefore hunfit =>
      exact checkMentions_of_unfit htext hmentions hbefore hunfit

end Message

/-! ## Messages that are read -/

namespace WordInterpreter

variable {w : WordInterpreter} {m m' : Message}

/-- `m'` is `m` after its texts are read.  The texts, the mentions and the stored tags are those of
`m`.  Every text has its own tokens now, in place of others; an attribute without a text keeps what
it has.  The features of `m` are followed by those that the attributes add, in their order. -/
structure IsReading (w : WordInterpreter) (m m' : Message) (added : Attribute → List Feature) :
    Prop where
  texts : m'.texts = m.texts
  mentions : m'.mentions = m.mentions
  storedTags : m'.storedTags = m.storedTags
  tokens_of_text : ∀ attr text, m.texts.get attr = some text →
    m'.tokens.get attr = tokenize text (if attr = .actionName then ['_'] else [])
  tokens_of_no_text : ∀ attr, m.texts.get attr = none →
    m'.tokens.get attr = m.tokens.get attr
  features : m'.features = m.features ++ added .text ++ added .actionName ++ added .actionText
  featuresOf : ∀ attr, m'.featuresOf attr = m.featuresOf attr ++ added attr
  added_of_text : ∀ attr text, m.texts.get attr = some text →
    added attr = w.features attr (m'.tokens.get attr)
  added_of_no_text : ∀ attr, m.texts.get attr = none → added attr = []
  /-- An attribute adds two features, or none. -/
  pair_or_none : ∀ attr, added attr = [] ∨ ∃ places counts,
    added attr = [⟨.sequence, attr, origin, .sparse places⟩,
      ⟨.sentence, attr, origin, .sparse counts⟩]

theorem extraSeparators_eq (attr : Attribute) :
    extraSeparators attr = if attr = .actionName then ['_'] else [] := by
  cases attr <;> rfl

theorem features_pair_or_none (attr : Attribute) (tokens : List Token) :
    w.features attr tokens = [] ∨ ∃ places counts,
      w.features attr tokens = [⟨.sequence, attr, origin, .sparse places⟩,
        ⟨.sentence, attr, origin, .sparse counts⟩] := by
  unfold features
  split
  · exact .inl rfl
  · exact .inr ⟨_, _, rfl⟩

theorem isReading_readAll (w : WordInterpreter) (m : Message) :
    w.IsReading m (w.readAll m) (w.featuresRead m) := by
  -- only tokens and features are replaced; which ones is read off attribute by attribute
  obtain ⟨tokens, features, hread⟩ := exists_readAll w m
  have htokens : ∀ attr text, m.texts.get attr = some text →
      (w.readAll m).tokens.get attr = tokenize text (extraSeparators attr) := by
    intro attr text htext
    rw [get_tokens_readAll, tokensRead, htext]
  refine
    { texts := by rw [hread]
      mentions := by rw [hread]
      storedTags := by rw [hread]
      tokens_of_text := ?_
      tokens_of_no_text := ?_
      features := ?_
      featuresOf := featuresOf_readAll w m
      added_of_text := ?_
      added_of_no_text := ?_
      pair_or_none := ?_ }
  · intro attr text htext
    rw [htokens attr text htext, extraSeparators_eq]
  · intro attr htext
    rw [get_tokens_readAll, tokensRead, htext]
  · rw [features_readAll]
    simp [Attribute.all]
  · intro attr text htext
    rw [htokens attr text htext, featuresRead, htext]
  · intro attr htext
    rw [featuresRead, htext]
  · intro attr
    unfold featuresRead
    split
    · exact .inl rfl
    · exact features_pair_or_none attr _

/-! ## The answers -/

theorem interpret_eq_error_iff {e : InterpretError} :
    w.interpret m = .error e ↔ m.checkMentions = .error e := by
  cases hcheck : m.checkMentions with
  | error e' => rw [interpret_of_error w m hcheck, Except.error.injEq, Except.error.injEq]
  | ok u =>
    rw [interpret_of_checked w m hcheck]
    constructor <;> intro h <;> cases h

theorem interpret_eq_none_iff :
    w.interpret m = .ok none ↔ m.mentions = [] ∧ ∀ attr, m.texts.get attr = none := by
  constructor
  · intro h
    cases hcheck : m.checkMentions with
    | error e =>
      rw [interpret_of_error w m hcheck] at h
      cases h
    | ok u =>
      have hnil : m.attributes = [] := by
        by_cases hnil : m.attributes = []
        · exact hnil
        -- any text at all would be answered
        · rw [interpret_of_checked w m hcheck, if_neg hnil] at h
          cases h
      have htexts := Message.attributes_eq_nil_iff.1 hnil
      refine ⟨?_, htexts⟩
      -- a mention would have a text to fit into
      apply List.eq_nil_iff_forall_not_mem.2
      intro mention hmention
      obtain ⟨text, htext, _⟩ := Message.exists_fitsIn_of_checkMentions hcheck hmention
      have hnone : m.texts.text = none := htexts .text
      rw [hnone] at htext
      cases htext
  · intro h
    obtain ⟨hmentions, htexts⟩ := h
    have hcheck := Message.checkMentions_of_mentions_eq_nil hmentions
    rw [interpret_of_checked w m hcheck, if_pos (Message.attributes_eq_nil_iff.2 htexts)]

/-- What is answered is the message after its texts are read.  Nothing is answered if there is
neither a text nor a mention.  Otherwise the mentions are refused, and this depends only on them and
on what was said. -/
theorem interpret_outcomes (w : WordInterpreter) (m : Message) :
    (∀ m', w.interpret m = .ok (some m') → ∃ added, w.IsReading m m' added) ∧
      (w.interpret m = .ok none ↔ (∀ attr, m.texts.get attr = none) ∧ m.mentions = []) ∧
      (∀ e, w.interpret m = .error e ↔ m.checkMentions = .error e) ∧
      ∀ e, m.checkMentions = .error e ↔ MentionsRefused m.texts.text m.mentions e := by
  refine ⟨?_, ?_, ?_, ?_⟩
  · intro m' hread
    obtain ⟨_, rfl⟩ := w.eq_readAll_of_interpret hread
    exact ⟨_, isReading_readAll w m⟩
  · rw [interpret_eq_none_iff]
    exact and_comm
  · intro e
    exact interpret_eq_error_iff
  · intro e
    exact Message.checkMentions_eq_error_iff

/-- Two texts are read, of which one had other tokens; a feature from elsewhere, the tokens of an
attribute without a text and the stored tags stay. -/
theorem interpret_outcomes_mixed :
    let w := ofWords ["paris", "greet"]
    let foreign : Feature := ⟨.sentence, .actionName, "elsewhere", .sparse (.empty 1 4)⟩
    let m : Message :=
      { texts := ⟨some "to paris", some "utter_greet", none⟩
        tokens := ⟨[⟨"stale", 0, 5⟩], [], [⟨"kept", 0, 4⟩]⟩
        features := [foreign]
        mentions := [⟨3, 8, "paris", "city", none, none⟩]
        storedTags := some ["U-city"] }
    ∃ m' added, w.interpret m = .ok (some m') ∧ w.IsReading m m' added ∧
      m'.tokens.text = [⟨"to", 0, 2⟩, ⟨"paris", 3, 8⟩] ∧
      m'.tokens.actionName = [⟨"utter", 0, 5⟩, ⟨"greet", 6, 11⟩] ∧
      m'.tokens.actionText = [⟨"kept", 0, 4⟩] ∧
      m'.featuresOf .actionName = foreign :: added .actionName ∧
      m'.storedTags = some ["U-city"] := by
  intro w foreign m
  have htext : m.texts.get .text = some "to paris" := rfl
  have hread := interpret_of_text w m rfl htext
  obtain ⟨hanswer, _⟩ := interpret_outcomes w m
  obtain ⟨added, h⟩ := hanswer _ hread
  refine ⟨_, added, hread, h, ?_, ?_, h.tokens_of_no_text .actionText rfl, ?_, h.storedTags⟩
  · exact (h.tokens_of_text .text _ htext).trans (by decide +kernel)
  · exact (h.tokens_of_text .actionName "utter_greet" rfl).trans (by decide +kernel)
  · exact h.featuresOf .actionName

end WordInterpreter

end TargetEncoding
