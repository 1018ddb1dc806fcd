import TargetEncoding.Proofs.EntityEncoding
import TargetEncoding.Proofs.Inference
import TargetEncoding.Proofs.Interpretation
import TargetEncoding.Proofs.Token
import TargetEncoding.StateEncoder.Fallback

/-!
# What becomes of an utterance

An entity encoder can end in five ways if its interpreter reads words.  It skips what has nothing to
encode, before it looks for an interpreter; it lacks an interpreter, before the mentions are looked
at; it refuses the first mention that does not fit, before the text is looked at; it finds no word;
or it tags every word.  That there are mentions without a text cannot happen, since an utterance
always has one, if only the empty one.

## Key results

- `toList_text_tokensFrom`: tokens are what is left between separators
- `tokenize_eq_nil_iff`: only a blank text has no tokens
- `EntityEncoder.PrefersSupplied.resolve_eq`: the interpreter that is found
- `EntityEncoder.encode_words`: the outcome, case by case
-/

namespace TargetEncoding

/-! ## Words -/

/-- The pieces of a text between blanks, as far as they are not empty. -/
def wordsOf (text : String) : List (List Char) :=
  (text.toList.splitOnP isBlank).filter (· ≠ [])

/-- The tokens are the pieces between separators that are not empty. -/
theorem toList_text_tokensFrom (p : Char → Bool) (offset : Nat) (cs : List Char) :
    (tokensFrom p offset cs).map (·.text.toList) = (cs.splitOnP p).filter (· ≠ []) := by
  fun_induction tokensFrom p offset cs with
  | case1 => simp
  | case2 offset c rest hsep ih =>
    rw [ih, List.splitOnP_cons_eq_if_modifyHead, if_pos hsep]
    simp
  | case3 offset c rest hsep word ih =>
    obtain ⟨hcut, hword, hbehind⟩ := word_append_behind hsep rest
    have htoken : (Token.startingAt offset (String.ofList word)).text.toList = word :=
      String.toList_ofList
    rw [List.map_cons, htoken, ih, hcut]
    -- what is behind the word is empty, or it begins with a separator
    cases hrest : rest.dropWhile (!p ·) with
    | nil =>
      rw [List.append_nil, List.splitOnP_eq_singleton hword]
      simp [word]
    | cons sep after =>
      have hsep' : p sep = true := hbehind sep (by rw [hrest, List.head?_cons])
      rw [List.splitOnP_append_cons_of_forall_mem hword sep hsep',
        List.splitOnP_cons_eq_if_modifyHead, if_pos hsep']
      simp [word]

/-- There are no tokens only where everything separates. -/
theorem tokensFrom_eq_nil_iff {p : Char → Bool} {offset : Nat} {cs : List Char} :
    tokensFrom p offset cs = [] ↔ ∀ c ∈ cs, p c = true := by
  fun_induction tokensFrom p offset cs with
  | case1 => simp
  | case2 offset c rest hsep ih => simp [ih, hsep]
  | case3 offset c rest hsep word ih => simp [hsep]

theorem isSeparator_nil : isSeparator [] = isBlank := by
  funext c
  simp [isSeparator]

/-- Without further separators, there is a token for each word. -/
theorem length_tokenize (text : String) : (tokenize text []).length = (wordsOf text).length := by
  rw [wordsOf, ← toList_text_tokensFrom isBlank 0, List.length_map, tokenize_eq_tokensFrom,
    isSeparator_nil]

theorem tokenize_eq_nil_iff {text : String} :
    tokenize text [] = [] ↔ ∀ c ∈ text.toList, isBlank c = true := by
  rw [tokenize_eq_tokensFrom, isSeparator_nil, tokensFrom_eq_nil_iff]

/-! ## Reading an utterance -/

namespace WordInterpreter

variable (w : WordInterpreter) {u : Utterance}

/-- An utterance is refused for the first mention that does not fit. -/
theorem interpret_ofUtterance_of_unfit {before after : List Mention} {m : Mention}
    (hmentions : u.mentions = before ++ m :: after)
    (hbefore : ∀ b ∈ before, b.FitsIn u.text.length) (hunfit : ¬ m.FitsIn u.text.length) :
    w.interpret (.ofUtterance u) =
      .error (.invalidSpan m.entity m.start m.stop u.text.length) := by
  apply interpret_of_error
  exact Message.checkMentions_of_unfit rfl hmentions hbefore hunfit

/-- An utterance whose mentions fit is read word by word. -/
theorem interpret_ofUtterance_of_fit (hfit : ∀ m ∈ u.mentions, m.FitsIn u.text.length) :
    ∃ answer, w.interpret (.ofUtterance u) = .ok (some answer) ∧
      answer.tokens.text = tokenize u.text [] := by
  have htext : (Message.ofUtterance u).texts.get .text = some u.text := rfl
  have hcheck : (Message.ofUtterance u).checkMentions = .ok () :=
    Message.checkMentions_of_fit rfl hfit
  refine ⟨_, interpret_of_text w _ hcheck htext, ?_⟩
  show (w.readAll (.ofUtterance u)).tokens.get .text = _
  rw [get_tokens_readAll, tokensRead, htext]
  rfl

end WordInterpreter

/-- Mentions all fit, or there is a first one that does not. -/
theorem Utterance.fit_or_unfit (u : Utterance) :
    (∀ m ∈ u.mentions, m.FitsIn u.text.length) ∨
    ∃ before m after, u.mentions = before ++ m :: after ∧
      (∀ b ∈ before, b.FitsIn u.text.length) ∧ ¬ m.FitsIn u.text.length := by
  cases hfind : u.mentions.find? fun m => ¬ m.FitsIn u.text.length with
  | none =>
    left
    simpa using hfind
  | some m =>
    right
    obtain ⟨hunfit, before, after, hmentions, hbefore⟩ := List.find?_eq_some_iff_append.1 hfind
    exact ⟨before, m, after, hmentions, by simpa using hbefore, by simpa using hunfit⟩

/-! ## The encoder -/

namespace EntityEncoder

/-- The encoder does not even look for an interpreter. -/
def Skips (e : EntityEncoder) (u : Utterance) : Prop :=
  ∀ c, e.config = some c → c.table.Skips u

/-- The interpreter to fall back on, if the encoder has a state encoder with one. -/
def defaultInterpreter (e : EntityEncoder) : Option Interpreter :=
  e.config.bind fun c => c.stateEncoder.bind (·.defaultInterpreter)

/-- If the encoder has a state encoder, a supplied interpreter is the one to use. -/
def PrefersSupplied (e : EntityEncoder) : Prop :=
  ∀ c s, e.config = some c → c.stateEncoder = some s → s.PrefersSupplied

/-- What comes out if the utterance is not skipped and `found` is the word interpreter that is
supplied, or else the one to fall back on. -/
structure WordOutcome (u : Utterance) (found : Option WordInterpreter)
    (result : Except EncodeError FeatureGroups) : Prop where
  of_missing : found = none → result = .error (.setup (.missingInterpreter .entityEncoder))
  /-- The first mention that does not fit is refused. -/
  of_unfit : found.isSome → ∀ before m after, u.mentions = before ++ m :: after →
    (∀ b ∈ before, b.FitsIn u.text.length) → ¬ m.FitsIn u.text.length →
    result = .error (.interpret (.invalidSpan m.entity m.start m.stop u.text.length))
  of_blank : found.isSome → (∀ m ∈ u.mentions, m.FitsIn u.text.length) →
    (∀ c ∈ u.text.toList, isBlank c = true) → result = .ok ∅
  /-- Every word is tagged. -/
  of_words : found.isSome → (∀ m ∈ u.mentions, m.FitsIn u.text.length) →
    (∃ c ∈ u.text.toList, isBlank c = false) →
    ∃ feature, result = .ok ((∅ : FeatureGroups).insert "entity_tags" [feature]) ∧
      feature.kind = .ids ∧ feature.matrix.shape = ((wordsOf u.text).length, 1)

variable {e : EntityEncoder} {u : Utterance}

theorem encode_eq_empty_of_skips (h : e.Skips u) (supplied : Option Interpreter) :
    e.encode u supplied = .ok ∅ := by
  obtain ⟨boundaries, config⟩ := e
  cases config with
  | none => rfl
  | some c => exact encode_of_skips (h c rfl)

section Found

variable {boundaries : Bool} {c : Config}

/-- The interpreter that is supplied is found, or else the one to fall back on. -/
theorem PrefersSupplied.resolve_eq (h : PrefersSupplied ⟨boundaries, some c⟩)
    (supplied : Option Interpreter) :
    c.resolve supplied = (supplied <|> defaultInterpreter ⟨boundaries, some c⟩) := by
  unfold Config.resolve defaultInterpreter
  cases hs : c.stateEncoder with
  | none =>
    -- an encoder over a given table has no state encoder to ask
    cases supplied <;> simp [hs]
  | some s => simp [hs, (h c s rfl hs).resolve_eq]

/-- What the interpreter complains of is passed on. -/
theorem encode_of_interpret_error (hskips : ¬ c.table.Skips u) {supplied : Option Interpreter}
    {interpreter : Interpreter} (hfound : c.resolve supplied = some interpreter)
    {err : InterpretError} (herr : interpreter (.ofUtterance u) = .error err) :
    encode ⟨boundaries, some c⟩ u supplied = .error (.interpret err) := by
  rw [encode_of_not_skips hskips]
  simp only [hfound, herr]
  rfl

/-- Without tokens there is nothing to tag. -/
theorem encode_of_no_tokens (hskips : ¬ c.table.Skips u) {supplied : Option Interpreter}
    {interpreter : Interpreter} (hfound : c.resolve supplied = some interpreter) {m : Message}
    (hanswer : interpreter (.ofUtterance u) = .ok (some m)) (htokens : m.tokens.text = []) :
    encode ⟨boundaries, some c⟩ u supplied = .ok ∅ := by
  have hempty : encodeAnswer boundaries c.table (some m) = ∅ := by
    simp [encodeAnswer, htokens]
  rw [encode_of_not_skips hskips]
  simp only [hfound, hanswer]
  show Except.ok (encodeAnswer boundaries c.table (some m)) = _
  rw [hempty]

/-- Every token is tagged. -/
theorem exists_encode_of_tokens (hskips : ¬ c.table.Skips u) {supplied : Option Interpreter}
    {interpreter : Interpreter} (hfound : c.resolve supplied = some interpreter) {m : Message}
    (hanswer : interpreter (.ofUtterance u) = .ok (some m)) (htokens : m.tokens.text ≠ []) :
    ∃ feature, encode ⟨boundaries, some c⟩ u supplied =
        .ok ((∅ : FeatureGroups).insert "entity_tags" [feature]) ∧
      feature.kind = .ids ∧ feature.matrix.shape = (m.tokens.text.length, 1) := by
  obtain ⟨hsaid, htags⟩ := not_or.1 hskips
  rw [Bool.not_eq_true] at hsaid
  rw [Nat.not_lt] at htags
  refine ⟨_, encode_of_answer rfl hsaid htags hfound hanswer htokens, rfl, ?_⟩
  simp [Feature.ofTagIds, Matrix.shape, computedTags_eq_map]

/-- What is not skipped has one of the outcomes. -/
theorem wordOutcome_encode (hskips : ¬ c.table.Skips u) {supplied : Option Interpreter}
    {found : Option WordInterpreter} (hresolve : c.resolve supplied = found.map (·.interpret)) :
    WordOutcome u found (encode ⟨boundaries, some c⟩ u supplied) := by
  constructor
  · intro hnone
    rw [hnone] at hresolve
    exact encode_eq_missingInterpreter_iff.2 ⟨hskips, hresolve⟩
  · intro hsome before m after hmentions hbefore hunfit
    obtain ⟨w, rfl⟩ := Option.isSome_iff_exists.1 hsome
    have herr := w.interpret_ofUtterance_of_unfit hmentions hbefore hunfit
    exact encode_of_interpret_error hskips hresolve herr
  · intro hsome hfit hblank
    obtain ⟨w, rfl⟩ := Option.isSome_iff_exists.1 hsome
    obtain ⟨answer, hanswer, htokens⟩ := w.interpret_ofUtterance_of_fit hfit
    have hnil : answer.tokens.text = [] := by
      rw [htokens, tokenize_eq_nil_iff]
      exact hblank
    exact encode_of_no_tokens hskips hresolve hanswer hnil
  · intro hsome hfit hword
    obtain ⟨w, rfl⟩ := Option.isSome_iff_exists.1 hsome
    obtain ⟨answer, hanswer, htokens⟩ := w.interpret_ofUtterance_of_fit hfit
    have hne : answer.tokens.text ≠ [] := by
      rw [htokens, Ne, tokenize_eq_nil_iff]
      simpa using hword
    rw [← length_tokenize, ← htokens]
    exact exists_encode_of_tokens hskips hresolve hanswer hne

end Found

/-- That a text is missing is not among the outcomes. -/
theorem WordOutcome.ne_missingText {found : Option WordInterpreter}
    {result : Except EncodeError FeatureGroups} (h : WordOutcome u found result) :
    result ≠ .error (.interpret .missingText) := by
  cases hfound : found with
  | none => simp [h.of_missing hfound]
  | some w =>
    have hsome : found.isSome := by rw [hfound, Option.isSome_some]
    obtain hfit | ⟨before, m, after, hmentions, hbefore, hunfit⟩ := u.fit_or_unfit
    · by_cases hblank : ∀ c ∈ u.text.toList, isBlank c = true
      · simp [h.of_blank hsome hfit hblank]
      · obtain ⟨feature, hresult, _⟩ := h.of_words hsome hfit (by simpa using hblank)
        simp [hresult]
    · simp [h.of_unfit hsome before m after hmentions hbefore hunfit]

/-- No mention fits into the empty text. -/
theorem WordOutcome.of_empty_text {found : Option WordInterpreter}
    {result : Except EncodeError FeatureGroups} (h : WordOutcome u found result)
    (hsome : found.isSome) (htext : u.text = "") {m : Mention} {rest : List Mention}
    (hmentions : u.mentions = m :: rest) :
    result = .error (.interpret (.invalidSpan m.entity m.start m.stop 0)) := by
  have hlength : u.text.length = 0 := by rw [htext]; rfl
  have hunfit : ¬ m.FitsIn u.text.length := by
    -- it would have to start before it stops, and to stop at once
    intro hfit
    obtain ⟨hlt, hle⟩ := hfit
    omega
  have hresult := h.of_unfit hsome [] m rest hmentions (by simp) hunfit
  rwa [hlength] at hresult

/-- An encoder without a configuration, without anything said or with fewer than two tags encodes
nothing, whatever interpreter it is given.  Otherwise, if the interpreter that is supplied, or else
the one to fall back on, reads words, there is an interpreter missing, a first mention that does not
fit, a blank text, or a number for each word.  A text is never missing, and mentions of the empty
text never fit. -/
theorem encode_words (e : EntityEncoder) (u : Utterance) :
    (e.Skips u → ∀ supplied, e.encode u supplied = .ok ∅) ∧
    (e.PrefersSupplied → ∀ (supplied : Option Interpreter) (found : Option WordInterpreter),
      (supplied <|> e.defaultInterpreter) = found.map (·.interpret) →
      (¬ e.Skips u → WordOutcome u found (e.encode u supplied)) ∧
      e.encode u supplied ≠ .error (.interpret .missingText) ∧
      ∀ c, e.config = some c → 2 ≤ c.table.numTags → found.isSome → u.text = "" →
        ∀ m rest, u.mentions = m :: rest →
          e.encode u supplied =
            .error (.interpret (.invalidSpan m.entity m.start m.stop 0))) := by
  refine ⟨encode_eq_empty_of_skips, ?_⟩
  intro hprefers supplied found hfound
  have hcomplete : ¬ e.Skips u → WordOutcome u found (e.encode u supplied) := by
    intro hskips
    obtain ⟨boundaries, config⟩ := e
    cases config with
    | none =>
      -- without a configuration everything is skipped
      exact absurd (fun _ hnone => nomatch hnone) hskips
    | some c =>
      rw [← hprefers.resolve_eq] at hfound
      refine wordOutcome_encode (fun hc => hskips ?_) hfound
      intro c' hc'
      rwa [← Option.some.inj hc']
  refine ⟨hcomplete, ?_, ?_⟩
  -- skipped or not, the outcome is known
  · by_cases hskips : e.Skips u
    · simp [encode_eq_empty_of_skips hskips]
    · exact (hcomplete hskips).ne_missingText
  · intro c hc htags hsome htext m rest hmentions
    -- with mentions an utterance is not empty, even without a text
    have hskips : ¬ e.Skips u := by
      intro hskips
      obtain hempty | hfew := hskips c hc
      · simp [Utterance.isEmpty, hmentions] at hempty
      · omega
    exact (hcomplete hskips).of_empty_text hsome htext hmentions

/-- An encoder over a table that was made elsewhere has nothing to fall back on.  Given a reader, or
with one to fall back on, an encoder tags two words; of the mentions that do not fit it refuses the
first. -/
theorem encode_words_ofTable :
    let table := TagTable.ofNumbered (numberedTags true ["city"])
    let reader := WordInterpreter.plain.interpret
    let s := (FallbackEncoder.empty.withDefault reader).toStateEncoder
    let e := ofTable true table
    let e' : EntityEncoder := ⟨true, some ⟨table, some s⟩⟩
    let good : Utterance := ⟨"to paris", [⟨3, 8, "paris", "city", none, none⟩]⟩
    let outside : Mention := ⟨3, 9, "paris", "city", none, none⟩
    let nowhere : Mention := ⟨3, 3, "", "city", none, none⟩
    let bad : Utterance := ⟨"to paris", good.mentions ++ [outside, nowhere]⟩
    e.PrefersSupplied ∧ e'.PrefersSupplied ∧ ¬ e.Skips good ∧ ¬ e.Skips bad ∧ ¬ e'.Skips good ∧
      e.encode good none = .error (.setup (.missingInterpreter .entityEncoder)) ∧
      (∃ feature, e.encode good (some reader) =
          .ok ((∅ : FeatureGroups).insert "entity_tags" [feature]) ∧
        feature.matrix.shape = (2, 1)) ∧
      (∃ feature, e'.encode good none =
          .ok ((∅ : FeatureGroups).insert "entity_tags" [feature]) ∧
        feature.matrix.shape = (2, 1)) ∧
      e.encode bad (some reader) = .error (.interpret (.invalidSpan "city" 3 9 8)) ∧
      e.encode ⟨"", [outside]⟩ (some reader) =
        .error (.interpret (.invalidSpan "city" 3 9 0)) := by
  intro table reader s e e' good outside nowhere bad
  have htags : 2 ≤ table.numTags := by decide
  have hskips : ∀ u : Utterance, u.isEmpty = false → ¬ table.Skips u :=
    fun u hsaid => TagTable.not_skips_iff.2 ⟨hsaid, htags⟩
  have hgood : ¬ e.Skips good := fun h => hskips good rfl (h _ rfl)
  have hbad : ¬ e.Skips bad := fun h => hskips bad rfl (h _ rfl)
  have hgood' : ¬ e'.Skips good := fun h => hskips good rfl (h _ rfl)
  have hprefers : e.PrefersSupplied := by
    intro c s hc hs
    cases hc
    cases hs
  have hprefers' : e'.PrefersSupplied := by
    intro c s hc hs
    cases hc
    cases hs
    exact FallbackEncoder.prefersSupplied_toStateEncoder _
  have hmissing := ((encode_words e good).2 hprefers none none rfl).1 hgood
  have hread := ((encode_words e good).2 hprefers (some reader) (some .plain) rfl).1 hgood
  have hread' := ((encode_words e' good).2 hprefers' none (some .plain) rfl).1 hgood'
  have hrefused := ((encode_words e bad).2 hprefers (some reader) (some .plain) rfl).1 hbad
  have hempty :=
    ((encode_words e ⟨"", [outside]⟩).2 hprefers (some reader) (some .plain) rfl).2.2
  have hword : ∃ c ∈ good.text.toList, isBlank c = false := ⟨'t', by decide, by decide⟩
  have hwords : (wordsOf good.text).length = 2 := by decide +kernel
  have hlength : bad.text.length = 8 := by decide
  obtain ⟨feature, hfeature, _, hshape⟩ := hread.of_words rfl (by decide) hword
  obtain ⟨feature', hfeature', _, hshape'⟩ := hread'.of_words rfl (by decide) hword
  rw [hwords] at hshape hshape'
  refine ⟨hprefers, hprefers', hgood, hbad, hgood', hmissing.of_missing rfl,
    ⟨feature, hfeature, hshape⟩, ⟨feature', hfeature', hshape'⟩, ?_, ?_⟩
  · rw [← hlength]
    exact hrefused.of_unfit rfl good.mentions outside _ rfl (by decide) (by decide)
  · exact hempty _ rfl htags rfl rfl outside [] rfl

end EntityEncoder

end TargetEncoding
