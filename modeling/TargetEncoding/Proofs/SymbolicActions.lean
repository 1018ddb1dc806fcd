import TargetEncoding.Proofs.ActionEncoding
import TargetEncoding.Proofs.BagOfWords

/-!
# Names of actions without known words

The one-hot row of an action stands in where the interpreter finds no features for its name.  The
word interpreter with a vocabulary finds two for every name in which there are words, but nothing is
written in them unless one of the words is known.  A name whose words are all unknown thus has
features and is still encoded by zeros only.

## Key results

- `IsOneHot.hasNonzero`: a one-hot row is not all zeros
- `WordInterpreter.exists_hasNonzero_iff`: the features of a text are not, if one of its words is
  known
- `ActionEncoder.hasNonzero_encode_iff`: which names are not encoded by zeros
- `ActionEncoder.not_hasNonzero_encode`: there are others
-/

namespace TargetEncoding

/-! ## Values that are not zero -/

/-- The values that a matrix lists: all cells of a dense one, the written cells of a sparse one. -/
def Matrix.values : Matrix → List Single
  | .dense m => m.rows.flatten
  | .sparse m => m.entries.toList.map Entry.value

/-- The feature lists a value that is not zero. -/
def Feature.HasNonzero (f : Feature) : Prop :=
  ∃ value ∈ f.matrix.values, (value == 0) = false

/-- The groups hold a feature that lists a value that is not zero. -/
def FeatureGroups.HasNonzero (groups : FeatureGroups) : Prop :=
  ∃ (name : String) (features : List Feature), groups[name]? = some features ∧
    ∃ f ∈ features, f.HasNonzero

theorem FeatureGroups.hasNonzero_insert_iff {name : String} {features : List Feature} :
    HasNonzero ((∅ : FeatureGroups).insert name features) ↔ ∃ f ∈ features, f.HasNonzero := by
  unfold HasNonzero
  constructor
  · intro hgroups
    obtain ⟨other, own, hget, hsome⟩ := hgroups
    rw [Std.ExtTreeMap.getElem?_insert] at hget
    split at hget
    · obtain rfl := Option.some.inj hget
      exact hsome
    · simp at hget
  · intro hsome
    exact ⟨name, features, by simp, hsome⟩

theorem Single.one_beq_zero : ((1 : Single) == 0) = false := by
  decide +kernel

theorem IsOneHot.hasNonzero {d : Domain} {action : String} {f : Feature} (h : IsOneHot d action f) :
    f.HasNonzero := by
  obtain ⟨m, i, hm, _, _, hentries⟩ := h.matrix
  refine ⟨1, ?_, Single.one_beq_zero⟩
  rw [hm]
  simp [Matrix.values, hentries]

/-! ## The features of a text -/

/-- Something is written for the known words, and only for them. -/
theorem SparseMatrix.PlacesWords.exists_mem_entries_iff {m : SparseMatrix} {columns : List String}
    {tokens : List Token} (h : m.PlacesWords columns tokens) :
    (∃ e, e ∈ m.entries.toList) ↔ ∃ t ∈ tokens, lowercase t.text ∈ columns := by
  constructor
  · intro hentry
    obtain ⟨e, he⟩ := hentry
    obtain ⟨_, t, ht, hword⟩ := (h.mem_entries_iff e).1 he
    exact ⟨t, List.mem_of_getElem? ht, List.mem_of_getElem? hword⟩
  · intro hknown
    obtain ⟨t, ht, hword⟩ := hknown
    obtain ⟨row, hrow⟩ := List.mem_iff_getElem?.1 ht
    obtain ⟨column, hcolumn⟩ := List.mem_iff_getElem?.1 hword
    exact ⟨⟨row, column, 1⟩, (h.mem_entries_iff _).2 ⟨rfl, t, hrow, hcolumn⟩⟩

namespace WordInterpreter

variable {words : List String} {tokens : List Token}

/-- With words to look for and tokens to look at, only known words make a difference. -/
theorem exists_hasNonzero_iff (hwords : words ≠ []) (htokens : tokens ≠ []) (attr : Attribute) :
    (∃ f ∈ (ofWords words).features attr tokens, f.HasNonzero) ↔
      ∃ t ∈ tokens, lowercase t.text ∈ words.map lowercase := by
  have hcolumns := Vocabulary.hasColumns_ofWords words
  have hplaces := hcolumns.placesWords tokens
  have hcounts := hcolumns.sumsColumns tokens
  have hknown : (∃ t ∈ tokens, lowercase t.text ∈ words.map lowercase) ↔
      ∃ e, e ∈ ((Vocabulary.ofWords words).tally tokens).words.entries.toList := by
    rw [hplaces.exists_mem_entries_iff]
    simp only [Vocabulary.columnWords, List.mem_eraseDups]
  rw [hknown, features_of_words hwords htokens]
  constructor
  · intro hsome
    obtain ⟨f, hf, value, hvalue, _⟩ := hsome
    simp only [List.mem_cons, List.not_mem_nil, or_false] at hf
    obtain rfl | rfl := hf
    · obtain ⟨e, he, _⟩ := List.mem_map.1 hvalue
      exact ⟨e, he⟩
    · -- what is counted is written in the first matrix
      obtain ⟨e, he, _⟩ := List.mem_map.1 hvalue
      obtain ⟨_, ⟨e', he', _⟩, _⟩ := (hcounts.mem_entries_iff e).1 he
      exact ⟨e', he'⟩
  · intro hentry
    obtain ⟨e, he⟩ := hentry
    have hone : e.value = 1 := ((hplaces.mem_entries_iff e).1 he).1
    exact ⟨_, List.mem_cons_self, 1, List.mem_map.2 ⟨e, he, hone⟩, Single.one_beq_zero⟩

end WordInterpreter

/-! ## Names of actions -/

namespace ActionEncoder

section Name

variable {e e' : ActionEncoder} {d : Domain} {f : FallbackEncoder} {words : List String}
  {supplied : Option Interpreter} {action : String}
  (hsetup : (Encoder.setup d (f.prepare d).toStateEncoder).run e = .ok () e')
  (hready : Encoder.isReady e' = true)
  (hfound : (supplied <|> f.defaultInterpreter) = some (WordInterpreter.ofWords words).interpret)
  (htext : action ∉ d.actionTexts)

include hsetup hready hfound htext

/-- An action whose name is read by a word interpreter. -/
theorem exists_outcome_ofWords :
    ∃ answer groups, e'.encode action supplied = .ok groups ∧ Outcome d action answer groups ∧
      featuresFound answer (d.attrOf action) =
        (WordInterpreter.ofWords words).features .actionName (tokenize action ['_']) := by
  have hattr : d.attrOf action = .actionName := if_neg htext
  obtain ⟨m, hanswer, hfeatures⟩ :=
    (WordInterpreter.ofWords words).interpret_ofText (d.attrOf action) action
  obtain ⟨groups, hgroups, houtcome⟩ :=
    exists_outcome ((isReady_of_setup_prepare hsetup).1 hready) hsetup hfound hanswer
  refine ⟨some m, groups, hgroups, houtcome, ?_⟩
  show m.featuresOf (d.attrOf action) = _
  rw [hfeatures, hattr]
  rfl

/-- With words to look for, a name with words in it is encoded by what is found for them. -/
theorem exists_encode_of_words (hwords : words ≠ []) (htokens : tokenize action ['_'] ≠ []) :
    ∃ groups, e'.encode action supplied = .ok groups ∧
      (FeatureGroups.HasNonzero groups ↔
        ∃ t ∈ tokenize action ['_'], lowercase t.text ∈ words.map lowercase) := by
  obtain ⟨answer, groups, hgroups, houtcome, hfeatures⟩ :=
    exists_outcome_ofWords hsetup hready hfound htext
  have hne : featuresFound answer (d.attrOf action) ≠ [] := by
    rw [hfeatures, WordInterpreter.features_of_words hwords htokens]
    exact List.cons_ne_nil _ _
  refine ⟨groups, hgroups, ?_⟩
  rw [houtcome.of_found hne, FeatureGroups.hasNonzero_insert_iff, hfeatures,
    WordInterpreter.exists_hasNonzero_iff hwords htokens]

/-- The name of an action is encoded by its one-hot row if there is no vocabulary, or no word in the
name.  Otherwise the features of its words are all there is, and they are zeros unless one of the
words is known. -/
theorem hasNonzero_encode_iff (hname : action ∈ d.actionNames) :
    ∃ groups, e'.encode action supplied = .ok groups ∧
      (FeatureGroups.HasNonzero groups ↔ words = [] ∨ tokenize action ['_'] = [] ∨
        ∃ t ∈ tokenize action ['_'], lowercase t.text ∈ words.map lowercase) := by
  by_cases hnone : words = [] ∨ tokenize action ['_'] = []
  · obtain ⟨answer, groups, hgroups, houtcome, hfeatures⟩ :=
      exists_outcome_ofWords hsetup hready hfound htext
    rw [WordInterpreter.features_eq_nil hnone] at hfeatures
    obtain ⟨row, hrow, rfl⟩ := houtcome.of_name hfeatures hname htext
    refine ⟨_, hgroups, iff_of_true ?_ (hnone.imp_right .inl)⟩
    rw [FeatureGroups.hasNonzero_insert_iff]
    exact ⟨row, List.mem_cons_self, hrow.hasNonzero⟩
  · rw [not_or] at hnone
    obtain ⟨groups, hgroups, hiff⟩ :=
      exists_encode_of_words hsetup hready hfound htext hnone.1 hnone.2
    refine ⟨groups, hgroups, ?_⟩
    simpa [hnone.1, hnone.2] using hiff

end Name

private theorem supplied_or (words : List String) :
    (some (WordInterpreter.ofWords words).interpret <|> FallbackEncoder.empty.defaultInterpreter) =
      some (WordInterpreter.ofWords words).interpret := rfl

/-- A word of the name is known in another spelling, or it is not. -/
theorem hasNonzero_encode_iff_spellings :
    let d := Domain.ofLists ["say_Hello"] ["Hi"] []
    ∃ e',
      (Encoder.setup d (FallbackEncoder.ofDomain d).toStateEncoder).run unconfigured = .ok () e' ∧
      Encoder.isReady e' = true ∧ "say_Hello" ∈ d.actionNames ∧ "say_Hello" ∉ d.actionTexts ∧
      (∃ groups, e'.encode "say_Hello" (some (WordInterpreter.ofWords ["HELLO"]).interpret) =
        .ok groups ∧ FeatureGroups.HasNonzero groups) ∧
      ∃ groups, e'.encode "say_Hello" (some (WordInterpreter.ofWords ["world"]).interpret) =
        .ok groups ∧ ¬ FeatureGroups.HasNonzero groups := by
  intro d
  obtain ⟨e', hsetup⟩ : ∃ e',
      (Encoder.setup d (FallbackEncoder.ofDomain d).toStateEncoder).run unconfigured = .ok () e' :=
    ⟨_, rfl⟩
  have hready : Encoder.isReady e' = true := (isReady_of_setup_prepare hsetup).2 (by decide)
  have hname : "say_Hello" ∈ d.actionNames := by decide
  have htext : "say_Hello" ∉ d.actionTexts := by decide
  have htokens : tokenize "say_Hello" ['_'] = [⟨"say", 0, 3⟩, ⟨"Hello", 4, 9⟩] := by
    decide +kernel
  obtain ⟨known, hknown, hknown_iff⟩ :=
    hasNonzero_encode_iff hsetup hready (supplied_or ["HELLO"]) htext hname
  obtain ⟨unknown, hunknown, hunknown_iff⟩ :=
    hasNonzero_encode_iff hsetup hready (supplied_or ["world"]) htext hname
  rw [htokens] at hknown_iff hunknown_iff
  refine ⟨e', hsetup, hready, hname, htext, ⟨known, hknown, ?_⟩, unknown, hunknown, ?_⟩
  · exact hknown_iff.2 (by decide +kernel)
  · rw [hunknown_iff]
    decide +kernel

/-- Not every name of an action is encoded by something other than zeros. -/
theorem not_hasNonzero_encode :
    ¬ ∀ (d : Domain) (f : FallbackEncoder) (e e' : ActionEncoder) (words : List String)
        (action : String),
      (Encoder.setup d (f.prepare d).toStateEncoder).run e = .ok () e' → Encoder.isReady e' = true →
      action ∈ d.actionNames → action ∉ d.actionTexts →
      ∃ groups, e'.encode action (some (WordInterpreter.ofWords words).interpret) = .ok groups ∧
        FeatureGroups.HasNonzero groups := by
  intro hall
  let d := Domain.ofLists ["greet"] ["Hi"] []
  obtain ⟨e', hsetup⟩ : ∃ e',
      (Encoder.setup d (FallbackEncoder.ofDomain d).toStateEncoder).run unconfigured = .ok () e' :=
    ⟨_, rfl⟩
  have hready : Encoder.isReady e' = true := (isReady_of_setup_prepare hsetup).2 (by decide)
  have htext : "greet" ∉ d.actionTexts := by decide
  have htokens : tokenize "greet" ['_'] = [⟨"greet", 0, 5⟩] := by decide +kernel
  obtain ⟨groups, hgroups, hnonzero⟩ :=
    hall d .empty unconfigured e' ["hello"] "greet" hsetup hready (by decide) htext
  have hread : tokenize "greet" ['_'] ≠ [] := by simp [htokens]
  obtain ⟨groups', hgroups', hiff⟩ :=
    exists_encode_of_words hsetup hready (supplied_or ["hello"]) htext (by decide) hread
  obtain rfl := Except.ok.inj (hgroups.symm.trans hgroups')
  -- the only word of the name is not the only word of the vocabulary
  have hknown := hiff.1 hnonzero
  rw [htokens] at hknown
  exact absurd hknown (by decide +kernel)

end ActionEncoder

end TargetEncoding
