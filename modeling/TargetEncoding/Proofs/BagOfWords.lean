import TargetEncoding.Proofs.Interpretation
import TargetEncoding.Proofs.Single
import TargetEncoding.Proofs.SparseMatrix

/-!
# Bags of words

The words of a vocabulary, compared in lower case, are the columns of two matrices: one has a row
for each token and says which word stands there, the other has one row and says how often each word
occurs.  Columns are numbered by the words that are there already, so they have no gaps, and every
entry that is written lies inside its matrix and in a cell of its own.  The tokens are gone through
once, and each is written and counted by itself; so that the counts are the sums of the columns has
to be carried from token to token.

## Key results

- `Vocabulary.hasColumns_ofWords`: the distinct words are the columns, by first occurrence
- `Vocabulary.Tallies.tallyToken`, `Vocabulary.tallies_tally`: what a token adds, and what all do
- `Vocabulary.HasColumns.placesWords`: which word stands where
- `Vocabulary.HasColumns.sumsColumns`: how often each word occurs
- `WordInterpreter.bagOfWords_exact`: the features that a text gets when it is read
-/

namespace TargetEncoding

namespace Vocabulary

/-! ## Columns -/

/-- The words, in lower case, each where it occurs first. -/
def columnWords (words : List String) : List String :=
  (words.map lowercase).eraseDups

/-- The words are the columns of the vocabulary, numbered from 0 on. -/
structure HasColumns (v : Vocabulary) (columns : List String) : Prop where
  distinct : columns.Nodup
  size : v.size = columns.length
  getElem?_iff : ∀ (word : String) (c : Nat), v[word]? = some c ↔ columns[c]? = some word

variable {v : Vocabulary} {columns : List String}

theorem HasColumns.mem_iff (h : v.HasColumns columns) {word : String} :
    word ∈ v ↔ word ∈ columns := by
  rw [Std.ExtTreeMap.mem_iff_isSome_getElem?, Option.isSome_iff_exists, List.mem_iff_getElem?]
  simp only [h.getElem?_iff]

/-- A known word changes nothing, and a new one gets the column behind all others. -/
theorem HasColumns.addWord (h : v.HasColumns columns) (word : String) :
    (v.addWord word).HasColumns
      (if lowercase word ∈ columns then columns else columns ++ [lowercase word]) := by
  unfold Vocabulary.addWord
  generalize lowercase word = lower
  by_cases hknown : lower ∈ columns
  · have hmem : lower ∈ v := h.mem_iff.2 hknown
    rw [if_pos hknown]
    constructor
    · exact h.distinct
    · simp [Std.ExtTreeMap.size_insertIfNew, hmem, h.size]
    · intro a c
      simp [Std.ExtTreeMap.getElem?_insertIfNew, hmem, h.getElem?_iff]
  · have hnew : lower ∉ v := fun hmem => hknown (h.mem_iff.1 hmem)
    rw [if_neg hknown]
    constructor
    · rw [List.nodup_append_comm, List.singleton_append, List.nodup_cons]
      exact ⟨hknown, h.distinct⟩
    · simp [Std.ExtTreeMap.size_insertIfNew, hnew, h.size]
    · intro a c
      rw [Std.ExtTreeMap.getElem?_insertIfNew, List.getElem?_concat_eq_some_iff, ← h.getElem?_iff,
        h.size]
      by_cases heq : lower = a
      · subst heq
        simp [hnew, eq_comm]
      · have hne : compare lower a ≠ .eq := fun hcmp => heq (Std.LawfulEqCmp.eq_of_compare hcmp)
        simp [hne, heq]

/-- The distinct words are the columns, in the order in which they occur first. -/
theorem hasColumns_ofWords (words : List String) :
    (ofWords words).HasColumns (columnWords words) := by
  -- from the end, as a word is added behind those before it
  induction words using List.reverseRecOn with
  | nil =>
    constructor
    · exact List.nodup_nil
    · rfl
    · intro word c
      simp [ofWords, columnWords]
  | append_singleton words word ih =>
    have hnext := ih.addWord word
    have hcolumns : columnWords (words ++ [word]) =
        if lowercase word ∈ columnWords words then columnWords words
        else columnWords words ++ [lowercase word] := by
      simp only [columnWords, List.map_append, List.map_singleton, List.eraseDups_concat,
        List.mem_eraseDups]
    rw [← hcolumns] at hnext
    rw [ofWords, List.foldl_append]
    exact hnext

/-- The words that are known are the given ones in lower case. -/
theorem mem_ofWords_iff {words : List String} {word : String} :
    word ∈ ofWords words ↔ word ∈ words.map lowercase := by
  rw [(hasColumns_ofWords words).mem_iff, columnWords, List.mem_eraseDups]

theorem isEmpty_ofWords (words : List String) : (ofWords words).isEmpty = words.isEmpty := by
  cases words with
  | nil => rfl
  | cons word words =>
    have hmem : lowercase word ∈ ofWords (word :: words) := by simp [mem_ofWords_iff]
    rw [List.isEmpty_cons, Std.ExtTreeMap.isEmpty_eq_false_iff]
    intro hempty
    rw [hempty] at hmem
    exact Std.ExtTreeMap.not_mem_empty hmem

/-! ## Going through the tokens -/

/-- The writes for the tokens, one for each whose word is known. -/
def wordEntries (v : Vocabulary) (tokens : List Token) : List Entry :=
  tokens.zipIdx.filterMap fun (t, row) => (v.columnOf? t).map (⟨row, ·, 1⟩)

/-- The number of tokens that have the word of a column. -/
def occurrences (v : Vocabulary) (tokens : List Token) (column : Nat) : Nat :=
  tokens.countP (v.columnOf? · == some column)

theorem wordEntries_concat (v : Vocabulary) (tokens : List Token) (t : Token) :
    v.wordEntries (tokens ++ [t]) =
      v.wordEntries tokens ++ ((v.columnOf? t).map (⟨tokens.length, ·, 1⟩)).toList := by
  rw [wordEntries, List.zipIdx_append, List.filterMap_append, Nat.zero_add]
  rfl

theorem occurrences_concat (v : Vocabulary) (tokens : List Token) (t : Token) (column : Nat) :
    v.occurrences (tokens ++ [t]) column =
      v.occurrences tokens column + if v.columnOf? t = some column then 1 else 0 := by
  simp [occurrences, List.countP_append, List.countP_singleton]

/-- What the tokens that were seen have come to: their words are written in a matrix of the given
height, and the column of each of these words has their number, as far as 2²⁴. -/
structure Tallies (v : Vocabulary) (height : Nat) (seen : List Token) (tally : WordTally) :
    Prop where
  words : tally.words = (SparseMatrix.empty height v.size).setAll (v.wordEntries seen)
  getElem?_counts : ∀ column, tally.counts[column]? =
    if v.occurrences seen column = 0 then none
    else some (Single.ofNat (min (v.occurrences seen column) (2 ^ 24)))

variable {height : Nat} {seen : List Token} {tally : WordTally}

/-- A column without a count has the count zero, so that the first word is counted as any other. -/
theorem Tallies.getD_counts (h : v.Tallies height seen tally) (column : Nat) :
    tally.counts.getD column 0 = Single.ofNat (min (v.occurrences seen column) (2 ^ 24)) := by
  rw [Std.ExtTreeMap.getD_eq_getD_getElem?, h.getElem?_counts]
  split
  · next hnone => rw [hnone, Nat.zero_min, Option.getD_none]; rfl
  · rw [Option.getD_some]

/-- One more token. -/
theorem Tallies.tallyToken (h : v.Tallies height seen tally) (t : Token) :
    v.Tallies height (seen ++ [t]) (v.tallyToken tally (t, seen.length)) := by
  rw [Vocabulary.tallyToken]
  cases hknown : v.columnOf? t with
  | none =>
    constructor
    · rw [wordEntries_concat, hknown, h.words]
      simp
    · intro column
      simp [occurrences_concat, hknown, h.getElem?_counts]
  | some written =>
    constructor
    · show tally.words.set seen.length written 1 = _
      rw [h.words, wordEntries_concat, hknown]
      simp [SparseMatrix.setAll, List.foldl_append]
    · intro column
      rw [Std.ExtTreeMap.getElem?_insert, h.getD_counts, Single.ofNat_min_add_one,
        occurrences_concat, hknown, h.getElem?_counts]
      by_cases heq : written = column
      · subst heq
        simp
      · have hne : compare written column ≠ .eq :=
          fun hcmp => heq (Std.LawfulEqCmp.eq_of_compare hcmp)
        simp [hne, heq]

/-- Going through the tokens writes and counts all of them. -/
theorem tallies_tally (v : Vocabulary) (tokens : List Token) :
    v.Tallies tokens.length tokens (v.tally tokens) := by
  suffices ∀ rest seen tally, v.Tallies tokens.length seen tally →
      v.Tallies tokens.length (seen ++ rest)
        ((rest.zipIdx seen.length).foldl v.tallyToken tally) from
    this tokens [] _ ⟨rfl, fun _ => Std.ExtTreeMap.getElem?_empty⟩
  -- a token goes over from those to come to those that were seen
  intro rest
  induction rest with
  | nil =>
    intro seen tally h
    rwa [List.append_nil]
  | cons t rest ih =>
    intro seen tally h
    have hnext := ih (seen ++ [t]) _ (h.tallyToken t)
    rwa [List.append_assoc, List.length_append] at hnext

/-! ## Which word stands where -/

/-- There is an entry for each token whose word is known. -/
theorem mem_wordEntries_iff {tokens : List Token} {e : Entry} :
    e ∈ v.wordEntries tokens ↔
      e.value = 1 ∧ ∃ t, tokens[e.row]? = some t ∧ v[lowercase t.text]? = some e.column := by
  simp only [wordEntries, List.mem_filterMap, Prod.exists, List.mk_mem_zipIdx_iff_getElem?,
    columnOf?, Option.map_eq_some_iff]
  constructor
  · intro hentry
    obtain ⟨t, row, ht, column, hcolumn, rfl⟩ := hentry
    exact ⟨rfl, t, ht, hcolumn⟩
  · intro hentry
    obtain ⟨hvalue, t, ht, hcolumn⟩ := hentry
    exact ⟨t, e.row, ht, e.column, hcolumn, by rw [← hvalue]⟩

/-- The entries go from row to row. -/
theorem pairwise_wordEntries (v : Vocabulary) (tokens : List Token) :
    (v.wordEntries tokens).Pairwise fun a b => a.row < b.row := by
  have hrows : tokens.zipIdx.Pairwise fun a b => a.2 < b.2 := by
    rw [← List.pairwise_map, List.zipIdx_map_snd]
    exact List.pairwise_lt_range'
  apply hrows.filterMap
  intro a b hlt e he e' he'
  obtain ⟨_, _, rfl⟩ := Option.map_eq_some_iff.1 he
  obtain ⟨_, _, rfl⟩ := Option.map_eq_some_iff.1 he'
  exact hlt

/-- A column has an entry if its word occurs. -/
theorem occurrences_ne_zero_iff {tokens : List Token} {column : Nat} :
    v.occurrences tokens column ≠ 0 ↔ ∃ e ∈ v.wordEntries tokens, e.column = column := by
  rw [Nat.ne_zero_iff_zero_lt, occurrences, List.countP_pos_iff]
  constructor
  · intro hoccurs
    obtain ⟨t, ht, hcolumn⟩ := hoccurs
    obtain ⟨row, hrow⟩ := List.mem_iff_getElem?.1 ht
    exact ⟨⟨row, column, 1⟩, mem_wordEntries_iff.2 ⟨rfl, t, hrow, beq_iff_eq.1 hcolumn⟩, rfl⟩
  · intro hentry
    obtain ⟨e, he, rfl⟩ := hentry
    obtain ⟨_, t, ht, hcolumn⟩ := mem_wordEntries_iff.1 he
    exact ⟨t, List.mem_of_getElem? ht, beq_iff_eq.2 hcolumn⟩

end Vocabulary

namespace SparseMatrix

/-- The matrix says in place of which token which of the words stands: there is a one in the column
of the word of each token that has a known one, and nothing else is written. -/
structure PlacesWords (m : SparseMatrix) (columns : List String) (tokens : List Token) : Prop where
  shape : m.shape = (tokens.length, columns.length)
  mem_entries_iff : ∀ e, e ∈ m.entries.toList ↔
    e.value = 1 ∧ ∃ t, tokens[e.row]? = some t ∧ columns[e.column]? = some (lowercase t.text)
  ascending : m.entries.toList.Pairwise fun a b => a.row < b.row
  get_eq : ∀ {row column : Nat} {t : Token} {word : String}, tokens[row]? = some t →
    columns[column]? = some word → m.get row column = if lowercase t.text = word then 1 else 0

end SparseMatrix

namespace Vocabulary

variable {v : Vocabulary} {columns : List String} (h : v.HasColumns columns) (tokens : List Token)

include h

/-- No entry misses the shape, since rows are tokens and columns are words that are known. -/
theorem HasColumns.keeps_words : (v.tally tokens).words.Keeps (v.wordEntries tokens) := by
  rw [(v.tallies_tally tokens).words]
  apply SparseMatrix.keeps_setAll
  · intro e he
    obtain ⟨_, t, ht, hcolumn⟩ := mem_wordEntries_iff.1 he
    have hword := (h.getElem?_iff _ _).1 hcolumn
    rw [h.size]
    exact ⟨(List.getElem?_eq_some_iff.1 ht).1, (List.getElem?_eq_some_iff.1 hword).1⟩
  · rw [List.nodup_iff_pairwise_ne, List.pairwise_map]
    apply (pairwise_wordEntries v tokens).imp
    intro a b hlt heq
    have hrow : a.row = b.row := congrArg Prod.fst heq
    omega

theorem HasColumns.placesWords : (v.tally tokens).words.PlacesWords columns tokens := by
  have hkeeps := h.keeps_words tokens
  have hshape : (v.tally tokens).words.shape = (tokens.length, columns.length) := by
    rw [(v.tallies_tally tokens).words, ← h.size]
    exact (SparseMatrix.holds_setAll ..).shape
  have hentries : ∀ e, e ∈ v.wordEntries tokens ↔ e.value = 1 ∧ ∃ t,
      tokens[e.row]? = some t ∧ columns[e.column]? = some (lowercase t.text) := by
    intro e
    simp only [mem_wordEntries_iff, h.getElem?_iff]
  constructor
  · exact hshape
  · rw [hkeeps.entries]
    exact hentries
  · rw [hkeeps.entries]
    exact pairwise_wordEntries v tokens
  · intro row column t word ht hword
    split
    · rename_i hlower
      have hmem : (⟨row, column, 1⟩ : Entry) ∈ v.wordEntries tokens :=
        (hentries _).2 ⟨rfl, t, ht, by rw [hword, hlower]⟩
      exact hkeeps.get_of_mem hmem
    · rename_i hlower
      apply hkeeps.get_of_not_mem
      -- an entry of this cell would be that of the token's own word
      intro e he hcell
      obtain ⟨rfl, rfl⟩ : e.row = row ∧ e.column = column := Prod.mk.inj hcell
      obtain ⟨_, t', ht', hword'⟩ := (hentries e).1 he
      obtain rfl := Option.some.inj (ht.symm.trans ht')
      exact hlower (Option.some.inj (hword'.symm.trans hword))

end Vocabulary

/-! ## How often each word occurs -/

namespace SparseMatrix

/-- The sum of the whole numbers in a column. -/
def columnTotal (m : SparseMatrix) (column : Nat) : Nat :=
  ((List.range m.height).map fun row => (m.get row column).toIndex).sum

/-- The one row of `sums` holds the sum of every column of `m` in which something is written, and
nothing else.  Sums go up to 2²⁴ only. -/
structure SumsColumns (sums m : SparseMatrix) : Prop where
  shape : sums.shape = (1, m.width)
  mem_entries_iff : ∀ e, e ∈ sums.entries.toList ↔
    e.row = 0 ∧ (∃ e' ∈ m.entries.toList, e'.column = e.column) ∧
      e.value = Single.ofNat (min (m.columnTotal e.column) (2 ^ 24))
  ascending : sums.entries.toList.Pairwise fun a b => a.column < b.column
  exact : m.height ≤ 2 ^ 24 → ∀ e ∈ sums.entries.toList,
    e.value.toInt? = some (m.columnTotal e.column : Int)

variable {m : SparseMatrix} {columns : List String} {tokens : List Token}

/-- The sum over the cells of a column counts the tokens of its word. -/
theorem PlacesWords.columnTotal_eq (h : m.PlacesWords columns tokens) {column : Nat}
    {word : String} (hword : columns[column]? = some word) :
    m.columnTotal column = tokens.countP fun t => lowercase t.text == word := by
  have hheight : m.height = tokens.length := (Prod.mk.inj h.shape).1
  have hzero : (0 : Single).toIndex = 0 := Single.toIndex_ofNat_of_le (by decide)
  have hone : (1 : Single).toIndex = 1 := Single.toIndex_ofNat_of_le (by decide)
  rw [columnTotal, hheight, ← List.sum_map_ite_eq_countP]
  congr 1
  apply List.ext_getElem
  · simp
  · intro i hi _
    have hlt : i < tokens.length := by simpa using hi
    simp only [List.getElem_map, List.getElem_range]
    rw [h.get_eq (List.getElem?_eq_getElem hlt) hword]
    by_cases hlower : lowercase tokens[i].text = word <;> simp [hlower, hzero, hone]

end SparseMatrix

namespace WordTally

variable {tally : WordTally}

theorem mem_countEntries_iff {e : Entry} :
    e ∈ tally.countEntries ↔ e.row = 0 ∧ tally.counts[e.column]? = some e.value := by
  simp only [countEntries, List.mem_map, Prod.exists,
    Std.ExtTreeMap.mem_toList_iff_getElem?_eq_some]
  constructor
  · intro hentry
    obtain ⟨column, count, hcount, rfl⟩ := hentry
    exact ⟨rfl, hcount⟩
  · intro hentry
    obtain ⟨hrow, hcount⟩ := hentry
    exact ⟨e.column, e.value, hcount, by rw [← hrow]⟩

/-- The counts go from column to column. -/
theorem pairwise_countEntries (tally : WordTally) :
    tally.countEntries.Pairwise fun a b => a.column < b.column := by
  rw [countEntries, List.pairwise_map]
  have hkeys := Std.ExtTreeMap.ordered_keys_toList (t := tally.counts)
  exact hkeys.imp Nat.compare_eq_lt.1

end WordTally

namespace Vocabulary

variable {v : Vocabulary} {columns : List String} (h : v.HasColumns columns) (tokens : List Token)

include h

/-- The sum over the cells of a column is what was counted. -/
theorem HasColumns.columnTotal_eq_occurrences {column : Nat} (hcolumn : column < columns.length) :
    (v.tally tokens).words.columnTotal column = v.occurrences tokens column := by
  have hword : columns[column]? = some columns[column] := List.getElem?_eq_getElem hcolumn
  rw [(h.placesWords tokens).columnTotal_eq hword, occurrences]
  apply List.countP_congr
  intro t _
  rw [beq_iff_eq, beq_iff_eq, columnOf?, h.getElem?_iff, hword, Option.some.injEq]
  exact eq_comm

/-- What is counted is the word of a column. -/
theorem HasColumns.lt_of_occurrences_ne_zero {column : Nat}
    (hoccurs : v.occurrences tokens column ≠ 0) : column < columns.length := by
  obtain ⟨e, he, rfl⟩ := occurrences_ne_zero_iff.1 hoccurs
  obtain ⟨_, _, _, hcolumn⟩ := mem_wordEntries_iff.1 he
  exact (List.getElem?_eq_some_iff.1 ((h.getElem?_iff _ _).1 hcolumn)).1

/-- Something is counted for the columns that have an entry, and it is the sum of the column. -/
theorem HasColumns.mem_countEntries_iff {e : Entry} :
    e ∈ (v.tally tokens).countEntries ↔ e.row = 0 ∧
      (∃ e' ∈ (v.tally tokens).words.entries.toList, e'.column = e.column) ∧
        e.value = Single.ofNat (min ((v.tally tokens).words.columnTotal e.column) (2 ^ 24)) := by
  have hcounts := (v.tallies_tally tokens).getElem?_counts e.column
  rw [WordTally.mem_countEntries_iff, hcounts, (h.keeps_words tokens).entries,
    ← occurrences_ne_zero_iff]
  by_cases hzero : v.occurrences tokens e.column = 0
  · simp [hzero]
  · have hlt := h.lt_of_occurrences_ne_zero tokens hzero
    rw [if_neg hzero, h.columnTotal_eq_occurrences tokens hlt, Option.some.injEq]
    simp [hzero, eq_comm]

/-- No count misses the shape, since only words that are known are counted. -/
theorem HasColumns.keeps_countRow :
    ((v.tally tokens).countRow v.size).Keeps (v.tally tokens).countEntries := by
  apply SparseMatrix.keeps_setAll
  · intro e he
    obtain ⟨hrow, ⟨e', he', hcolumn⟩, _⟩ := (h.mem_countEntries_iff tokens).1 he
    obtain ⟨_, _, _, hword⟩ := ((h.placesWords tokens).mem_entries_iff e').1 he'
    rw [h.size, hrow, ← hcolumn]
    exact ⟨Nat.zero_lt_one, (List.getElem?_eq_some_iff.1 hword).1⟩
  · rw [List.nodup_iff_pairwise_ne, List.pairwise_map]
    apply (v.tally tokens).pairwise_countEntries.imp
    intro a b hlt heq
    have hcolumn : a.column = b.column := congrArg Prod.snd heq
    omega

/-- The second matrix holds how often each word occurs. -/
theorem HasColumns.sumsColumns :
    ((v.tally tokens).countRow v.size).SumsColumns (v.tally tokens).words := by
  have hentries := (h.keeps_countRow tokens).entries
  obtain ⟨hheight, hwidth⟩ := Prod.mk.inj (h.placesWords tokens).shape
  constructor
  · rw [hwidth, ← h.size]
    exact (SparseMatrix.holds_setAll ..).shape
  · intro e
    rw [hentries, h.mem_countEntries_iff]
  · rw [hentries]
    exact WordTally.pairwise_countEntries _
  · intro hfew e he
    rw [hentries] at he
    obtain ⟨_, ⟨e', he', hcolumn⟩, hvalue⟩ := (h.mem_countEntries_iff tokens).1 he
    -- there are no more words in a column than tokens
    have hle : (v.tally tokens).words.columnTotal e.column ≤ 2 ^ 24 := by
      obtain ⟨_, _, _, hword⟩ := ((h.placesWords tokens).mem_entries_iff e').1 he'
      rw [hcolumn] at hword
      rw [(h.placesWords tokens).columnTotal_eq hword]
      exact Nat.le_trans List.countP_le_length (hheight ▸ hfew)
    rw [hvalue, Nat.min_eq_left hle, Single.toInt?_ofNat_of_le hle]

end Vocabulary

/-! ## The features of a text -/

namespace WordInterpreter

variable {words : List String} {tokens : List Token}

theorem features_eq_nil (h : words = [] ∨ tokens = []) (attr : Attribute) :
    (ofWords words).features attr tokens = [] := by
  unfold features ofWords
  apply if_pos
  rw [Vocabulary.isEmpty_ofWords, Bool.or_eq_true, List.isEmpty_iff, List.isEmpty_iff]
  exact h

/-- With words to look for and tokens to look at there are two features. -/
theorem features_of_words (hwords : words ≠ []) (htokens : tokens ≠ []) (attr : Attribute) :
    (ofWords words).features attr tokens =
      let v := Vocabulary.ofWords words
      [⟨.sequence, attr, origin, .sparse (v.tally tokens).words⟩,
        ⟨.sentence, attr, origin, .sparse ((v.tally tokens).countRow v.size)⟩] := by
  unfold features ofWords
  apply if_neg
  rw [Vocabulary.isEmpty_ofWords, Bool.or_eq_true, List.isEmpty_iff, List.isEmpty_iff, not_or]
  exact ⟨hwords, htokens⟩

/-- The distinct words, in lower case and each where it occurs first, are the columns.  A text that
is read adds features behind those that its attribute has.  With words to look for and a token to
look at there are two: one says which word stands in place of which token, the other how often each
word occurs.  Every write that is made for them hits the matrix and is kept.  Without words, or
without tokens, there are none. -/
theorem bagOfWords_exact (words : List String) :
    (ofWords words).vocabulary.HasColumns (words.map lowercase).eraseDups ∧
    ∀ (m : Message) (attr : Attribute) (text : String),
      m.checkMentions = .ok () → m.texts.get attr = some text →
      let tokens := tokenize text (extraSeparators attr)
      ∃ m', (ofWords words).interpret m = .ok (some m') ∧ m'.tokens.get attr = tokens ∧
        (words = [] ∨ tokens = [] → m'.featuresOf attr = m.featuresOf attr) ∧
        (words ≠ [] → tokens ≠ [] → ∃ places counts : SparseMatrix,
          m'.featuresOf attr = m.featuresOf attr ++
            [⟨.sequence, attr, origin, .sparse places⟩,
              ⟨.sentence, attr, origin, .sparse counts⟩] ∧
          places.PlacesWords (words.map lowercase).eraseDups tokens ∧ counts.SumsColumns places ∧
          places.Keeps ((ofWords words).vocabulary.wordEntries tokens) ∧
          counts.Keeps ((ofWords words).vocabulary.tally tokens).countEntries) := by
  have hcolumns := Vocabulary.hasColumns_ofWords words
  refine ⟨hcolumns, ?_⟩
  intro m attr text hcheck htext tokens
  have hfeatures : ((ofWords words).readAll m).featuresOf attr =
      m.featuresOf attr ++ (ofWords words).features attr tokens := by
    rw [featuresOf_readAll, featuresRead, htext]
  have htokens : ((ofWords words).readAll m).tokens.get attr = tokens := by
    rw [get_tokens_readAll, tokensRead, htext]
  have hread := interpret_of_text (ofWords words) m hcheck htext
  refine ⟨(ofWords words).readAll m, hread, htokens, ?_, ?_⟩
  · intro hnone
    rw [hfeatures, features_eq_nil hnone, List.append_nil]
  · intro hwords hsome
    rw [hfeatures, features_of_words hwords hsome]
    exact ⟨_, _, rfl, hcolumns.placesWords tokens, hcolumns.sumsColumns tokens,
      hcolumns.keeps_words tokens, hcolumns.keeps_countRow tokens⟩

/-- One word occurs twice, in different spellings, and one is not known. -/
theorem bagOfWords_exact_spellings :
    let words := ["hello", "World", "HELLO"]
    let m := Message.ofText .text "Hello hello there"
    m.checkMentions = .ok () ∧ m.texts.get .text = some "Hello hello there" ∧ words ≠ [] ∧
      tokenize "Hello hello there" [] ≠ [] ∧
      ∃ m' places counts, (ofWords words).interpret m = .ok (some m') ∧
        m'.featuresOf .text = [⟨.sequence, .text, origin, .sparse places⟩,
          ⟨.sentence, .text, origin, .sparse counts⟩] ∧
        places.shape = (3, 2) ∧ places.get 1 0 = 1 ∧ places.get 2 0 = 0 ∧
        ⟨0, 0, Single.ofNat 2⟩ ∈ counts.entries.toList := by
  intro words m
  have htokens : tokenize "Hello hello there" [] =
      [⟨"Hello", 0, 5⟩, ⟨"hello", 6, 11⟩, ⟨"there", 12, 17⟩] := by decide +kernel
  have hcolumns : (words.map lowercase).eraseDups = ["hello", "world"] := by decide +kernel
  have hwords : words ≠ [] := by decide
  have hsome : tokenize "Hello hello there" [] ≠ [] := by
    rw [htokens]
    exact List.cons_ne_nil _ _
  obtain ⟨_, hread⟩ := bagOfWords_exact words
  obtain ⟨m', hm', _, _, hfeatures⟩ := hread m .text "Hello hello there" rfl rfl
  obtain ⟨places, counts, hm'features, hplaces, hcounts, _⟩ := hfeatures hwords hsome
  have hextra : extraSeparators .text = [] := rfl
  rw [hextra, htokens, hcolumns] at hplaces
  have hword : ["hello", "world"][0]? = some "hello" := rfl
  have hlower : lowercase "hello" = "hello" := by decide +kernel
  refine ⟨rfl, rfl, hwords, hsome, m', places, counts, hm', hm'features, hplaces.shape, ?_, ?_, ?_⟩
  · rw [hplaces.get_eq (t := ⟨"hello", 6, 11⟩) rfl hword]
    exact if_pos hlower
  · rw [hplaces.get_eq (t := ⟨"there", 12, 17⟩) rfl hword]
    exact if_neg (by decide +kernel)
  · rw [hcounts.mem_entries_iff]
    refine ⟨rfl, ⟨⟨1, 0, 1⟩, ?_, rfl⟩, ?_⟩
    · rw [hplaces.mem_entries_iff]
      exact ⟨rfl, ⟨"hello", 6, 11⟩, rfl, by rw [hword, hlower]⟩
    · rw [hplaces.columnTotal_eq hword]
      decide +kernel

end WordInterpreter

end TargetEncoding
