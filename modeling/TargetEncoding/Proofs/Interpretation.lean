import TargetEncoding.Interpreter.Words
import TargetEncoding.Proofs.ForStd

/-!
# What the word interpreter makes of a message

The mentions are looked at first, and the first one that does not fit ends everything.  After that
each attribute that carries text gets the tokens of its text and adds its features behind those that
are there.  Only the texts are read, and reading leaves them alone, so what an attribute gets does
not depend on the attributes that are read before it.

## Key results

- `Message.checkMentions_of_fit`, `checkMentions_of_unfit`: what the look at the mentions comes to
- `WordInterpreter.features_readAll`, `get_tokens_readAll`: what reading adds, by attribute
- `WordInterpreter.featuresOf_readAll`: the features that one attribute gets
- `WordInterpreter.exists_interpret`: reading a message changes its tokens and features only
- `WordInterpreter.interpret_of_checked`: what comes of mentions that are let through
- `WordInterpreter.interpret_of_text`: a message with a text and with mentions that fit is read
- `WordInterpreter.eq_readAll_of_interpret`: what is answered has been read, and its mentions fit
-/

namespace TargetEncoding

/-! ## The look at the mentions -/

namespace Message

/-- Mentions without a text to speak of are refused. -/
theorem checkMentions_of_no_text {m : Message} (h : m.texts.text = none)
    (hmentions : m.mentions ≠ []) : m.checkMentions = .error .missingText := by
  have hne : ¬ m.mentions.isEmpty = true := fun hempty => hmentions (List.isEmpty_iff.1 hempty)
  simp only [checkMentions, if_neg hne, h]

/-- With a text to speak of, the mentions are searched for one that does not fit into it. -/
theorem checkMentions_of_text {m : Message} {text : String} (h : m.texts.text = some text) :
    m.checkMentions = (m.mentions.find? fun mention => ¬ mention.FitsIn text.length).elim
      (.ok ()) fun mention =>
        .error (.invalidSpan mention.entity mention.start mention.stop text.length) := by
  unfold checkMentions
  split
  · rename_i hempty
    rw [List.isEmpty_iff.1 hempty]
    rfl
  · simp only [h]
    cases m.mentions.find? fun mention => ¬ mention.FitsIn text.length <;> rfl

/-- Mentions that fit into the text are let through. -/
theorem checkMentions_of_fit {m : Message} {text : String} (h : m.texts.text = some text)
    (hfit : ∀ mention ∈ m.mentions, mention.FitsIn text.length) : m.checkMentions = .ok () := by
  have hnone : m.mentions.find? (fun mention => ¬ mention.FitsIn text.length) = none := by
    rw [List.find?_eq_none]
    intro mention hmention
    simpa using hfit mention hmention
  rw [checkMentions_of_text h, hnone, Option.elim_none]

/-- The first mention that does not fit into the text is reported. -/
theorem checkMentions_of_unfit {m : Message} {text : String} (h : m.texts.text = some text)
    {before after : List Mention} {mention : Mention}
    (hmentions : m.mentions = before ++ mention :: after)
    (hbefore : ∀ b ∈ before, b.FitsIn text.length) (hunfit : ¬ mention.FitsIn text.length) :
    m.checkMentions =
      .error (.invalidSpan mention.entity mention.start mention.stop text.length) := by
  have hsome : m.mentions.find? (fun mention => ¬ mention.FitsIn text.length) = some mention := by
    rw [List.find?_eq_some_iff_append]
    refine ⟨by simpa using hunfit, before, after, hmentions, ?_⟩
    intro b hb
    simpa using hbefore b hb
  rw [checkMentions_of_text h, hsome, Option.elim_some]

/-- Where nothing is reported, every mention fits into the text that it speaks of. -/
theorem exists_fitsIn_of_checkMentions {m : Message} (h : m.checkMentions = .ok ())
    {mention : Mention} (hmention : mention ∈ m.mentions) :
    ∃ text, m.texts.text = some text ∧ mention.FitsIn text.length := by
  cases htext : m.texts.text with
  | none =>
    rw [checkMentions_of_no_text htext (List.ne_nil_of_mem hmention)] at h
    cases h
  | some text =>
    rw [checkMentions_of_text htext] at h
    cases hfind : m.mentions.find? fun mention => ¬ mention.FitsIn text.length with
    | none => exact ⟨text, rfl, by simpa using List.find?_eq_none.1 hfind mention hmention⟩
    | some unfit =>
      rw [hfind] at h
      cases h

theorem checkMentions_of_mentions_eq_nil {m : Message} (h : m.mentions = []) :
    m.checkMentions = .ok () := by
  simp [checkMentions, h]

theorem attributes_eq_nil_iff {m : Message} :
    m.attributes = [] ↔ ∀ attr, m.texts.get attr = none := by
  simp [attributes, Attribute.mem_all]

theorem attributes_ne_nil {m : Message} {attr : Attribute} {text : String}
    (h : m.texts.get attr = some text) : m.attributes ≠ [] := by
  intro hnil
  have hnone := attributes_eq_nil_iff.1 hnil attr
  rw [h] at hnone
  cases hnone

end Message

namespace WordInterpreter

variable (w : WordInterpreter) (m : Message)

/-! ## One attribute -/

/-- The tokens that an attribute has after it is read. -/
def tokensRead (attr : Attribute) : List Token :=
  match m.texts.get attr with
  | none => m.tokens.get attr
  | some text => tokenize text (extraSeparators attr)

/-- The features that reading an attribute adds. -/
def featuresRead (attr : Attribute) : List Feature :=
  match m.texts.get attr with
  | none => []
  | some text => w.features attr (tokenize text (extraSeparators attr))

/-- Reading an attribute changes at most the tokens and the features. -/
theorem exists_readAttribute (attr : Attribute) :
    ∃ tokens features,
      w.readAttribute m attr = { m with tokens := tokens, features := features } := by
  rw [readAttribute]
  cases m.texts.get attr with
  | none => exact ⟨m.tokens, m.features, rfl⟩
  | some text => exact ⟨_, _, rfl⟩

theorem texts_readAttribute (attr : Attribute) : (w.readAttribute m attr).texts = m.texts := by
  obtain ⟨tokens, features, hattr⟩ := exists_readAttribute w m attr
  rw [hattr]

theorem features_readAttribute (attr : Attribute) :
    (w.readAttribute m attr).features = m.features ++ w.featuresRead m attr := by
  unfold readAttribute featuresRead
  cases m.texts.get attr with
  | none => simp
  | some text => rfl

theorem get_tokens_readAttribute (attr a : Attribute) :
    (w.readAttribute m attr).tokens.get a =
      if attr = a then tokensRead m a else m.tokens.get a := by
  unfold readAttribute tokensRead
  by_cases h : attr = a
  · subst h
    cases m.texts.get attr <;> simp [Message.setTokens]
  · cases m.texts.get attr <;> simp [Message.setTokens, PerAttribute.get_set, h]

/-! ## All attributes -/

/-- The message after all its attributes are read. -/
def readAll : Message :=
  Attribute.all.foldl w.readAttribute m

theorem exists_readAttributes (attributes : List Attribute) :
    ∃ tokens features,
      attributes.foldl w.readAttribute m = { m with tokens := tokens, features := features } := by
  induction attributes generalizing m with
  | nil => exact ⟨m.tokens, m.features, rfl⟩
  | cons attr attributes ih =>
    obtain ⟨_, _, hattr⟩ := exists_readAttribute w m attr
    obtain ⟨tokens, features, hlater⟩ := ih (w.readAttribute m attr)
    exact ⟨tokens, features, by rw [List.foldl_cons, hlater, hattr]⟩

/-- Reading keeps the texts, the mentions and the stored tags. -/
theorem exists_readAll :
    ∃ tokens features, w.readAll m = { m with tokens := tokens, features := features } :=
  exists_readAttributes w m Attribute.all

/-- What an attribute adds depends on the texts only. -/
theorem featuresRead_congr {m m' : Message} (h : m.texts = m'.texts) (attr : Attribute) :
    w.featuresRead m attr = w.featuresRead m' attr := by
  simp only [featuresRead, h]

theorem features_foldl_readAttribute (attributes : List Attribute) :
    (attributes.foldl w.readAttribute m).features =
      m.features ++ attributes.flatMap (w.featuresRead m) := by
  induction attributes generalizing m with
  | nil => simp
  | cons attr attributes ih =>
    -- the attributes behind find the same texts
    have hsame : w.featuresRead (w.readAttribute m attr) = w.featuresRead m :=
      funext (featuresRead_congr w (texts_readAttribute w m attr))
    rw [List.foldl_cons, ih, hsame, features_readAttribute, List.flatMap_cons, List.append_assoc]

theorem get_tokens_foldl_readAttribute (attributes : List Attribute) (a : Attribute) :
    (attributes.foldl w.readAttribute m).tokens.get a =
      if a ∈ attributes then tokensRead m a else m.tokens.get a := by
  induction attributes generalizing m with
  | nil => simp
  | cons attr attributes ih =>
    rw [List.foldl_cons, ih, tokensRead, texts_readAttribute, get_tokens_readAttribute, tokensRead]
    -- reading an attribute again makes no difference
    by_cases h : a = attr
    · subst h
      cases m.texts.get a <;> simp
    · have hne : attr ≠ a := fun heq => h heq.symm
      cases m.texts.get a <;> simp [h, hne]

/-- Reading adds the features of one attribute after the other. -/
theorem features_readAll :
    (w.readAll m).features = m.features ++ Attribute.all.flatMap (w.featuresRead m) :=
  features_foldl_readAttribute w m Attribute.all

/-- Reading replaces the tokens of the attributes that carry text. -/
theorem get_tokens_readAll (attr : Attribute) :
    (w.readAll m).tokens.get attr = tokensRead m attr := by
  rw [readAll, get_tokens_foldl_readAttribute, if_pos (Attribute.mem_all attr)]

/-! ## The features of one attribute -/

theorem attr_of_mem_features {attr : Attribute} {tokens : List Token} {f : Feature}
    (h : f ∈ w.features attr tokens) : f.attr = attr := by
  unfold features at h
  split at h
  · cases h
  · simp only [List.mem_cons, List.not_mem_nil, or_false] at h
    obtain rfl | rfl := h <;> rfl

theorem attr_of_mem_featuresRead {attr : Attribute} {f : Feature}
    (h : f ∈ w.featuresRead m attr) : f.attr = attr := by
  unfold featuresRead at h
  split at h
  · cases h
  · exact attr_of_mem_features w h

/-- Of the features that an attribute adds those of another one are none, and its own are all. -/
theorem filter_featuresRead (attr a : Attribute) :
    (w.featuresRead m attr).filter (·.attr == a) =
      if attr = a then w.featuresRead m a else [] := by
  split
  · next h =>
    subst h
    rw [List.filter_eq_self]
    intro f hf
    simp [attr_of_mem_featuresRead w m hf]
  · next h =>
    rw [List.filter_eq_nil_iff]
    intro f hf
    simp [attr_of_mem_featuresRead w m hf, h]

/-- An attribute gets the features of its own text behind those it has. -/
theorem featuresOf_readAll (attr : Attribute) :
    (w.readAll m).featuresOf attr = m.featuresOf attr ++ w.featuresRead m attr := by
  rw [Message.featuresOf, features_readAll, List.filter_append, List.filter_flatMap,
    Message.featuresOf]
  simp only [filter_featuresRead]
  cases attr <;> simp [Attribute.all]

/-! ## The whole reading -/

theorem interpret_of_error {e : InterpretError} (h : m.checkMentions = .error e) :
    w.interpret m = .error e := by
  simp only [interpret, h]
  rfl

/-- Mentions that are let through are read, unless there is nothing to read. -/
theorem interpret_of_checked (hcheck : m.checkMentions = .ok ()) :
    w.interpret m = .ok (if m.attributes = [] then none else some (w.readAll m)) := by
  simp only [interpret, hcheck]
  by_cases hnil : m.attributes = []
  · rw [if_pos hnil, hnil]
    rfl
  · rw [if_neg hnil, List.isEmpty_eq_false_iff.2 hnil]
    rfl

/-- A message that carries a text, and whose mentions fit, is read. -/
theorem interpret_of_text {attr : Attribute} {text : String} (hcheck : m.checkMentions = .ok ())
    (htext : m.texts.get attr = some text) : w.interpret m = .ok (some (w.readAll m)) := by
  rw [interpret_of_checked w m hcheck, if_neg (Message.attributes_ne_nil htext)]

/-- What is answered is the message after all its attributes are read, and its mentions fit. -/
theorem eq_readAll_of_interpret {m m' : Message} (h : w.interpret m = .ok (some m')) :
    m.checkMentions = .ok () ∧ m' = w.readAll m := by
  cases hcheck : m.checkMentions with
  | error e =>
    rw [interpret_of_error w m hcheck] at h
    cases h
  | ok u =>
    rw [interpret_of_checked w m hcheck] at h
    split at h
    · cases h
    · cases h
      exact ⟨rfl, rfl⟩

/-- A message that is read keeps its texts, its mentions and its stored tags. -/
theorem exists_interpret {w : WordInterpreter} {m m' : Message}
    (h : w.interpret m = .ok (some m')) :
    ∃ tokens features, m' = { m with tokens := tokens, features := features } := by
  obtain ⟨_, rfl⟩ := eq_readAll_of_interpret w h
  exact exists_readAll w m

/-- After a reading the tokens of an attribute are those of its text. -/
theorem get_tokens_of_interpret {m m' : Message} (h : w.interpret m = .ok (some m'))
    {attr : Attribute} {text : String} (htext : m.texts.get attr = some text) :
    m'.tokens.get attr = tokenize text (extraSeparators attr) := by
  obtain ⟨_, rfl⟩ := w.eq_readAll_of_interpret h
  rw [get_tokens_readAll, tokensRead, htext]

/-- A message that is one text is always read. -/
theorem interpret_ofText (attr : Attribute) (text : String) :
    ∃ m, w.interpret (.ofText attr text) = .ok (some m) ∧
      m.featuresOf attr = w.features attr (tokenize text (extraSeparators attr)) := by
  have htext : (Message.ofText attr text).texts.get attr = some text := by
    simp [Message.ofText, Message.setText]
  have hcheck : (Message.ofText attr text).checkMentions = .ok () :=
    Message.checkMentions_of_mentions_eq_nil rfl
  refine ⟨_, interpret_of_text w _ hcheck htext, ?_⟩
  rw [featuresOf_readAll, featuresRead, htext]
  rfl

end WordInterpreter

end TargetEncoding
