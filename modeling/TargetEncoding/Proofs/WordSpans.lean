import TargetEncoding.Proofs.BoundaryBlocks
import TargetEncoding.Proofs.Conflicts
import TargetEncoding.Proofs.EntityOutcomes
import TargetEncoding.Proofs.Interpretation
import TargetEncoding.Proofs.MessageEdits
import TargetEncoding.Proofs.SharedCharacters

/-!
# Mentions and words

A mention that fits into a text has characters, and those of them that are not blank belong to
words.  The tokens that it covers are the words it has a character of.  So blanks at its ends do not
matter, and it covers nothing only if it has nothing but blanks.

## Key results

- `Mention.FitsIn.overlaps_iff`: a mention overlaps the words of which it has a character
- `Mention.FitsIn.cover_eq_nil_iff`: a mention covers nothing if it is blank
- `boundaryTags_of_laidAlike`, `entityLabels_of_laidAlike`: tags and labels depend on what the
  mentions cover and name
- `words_decide_alignment`: what fits into a text is aligned by its words, and moved over its blanks
-/

namespace TargetEncoding

namespace Mention

variable {text : String} {m m' : Mention}

/-- The mention has a character at this position, and it is not blank. -/
def HasWordAt (text : String) (m : Mention) (p : Nat) : Prop :=
  (m.start ≤ p ∧ p < m.stop) ∧ ∃ c, text.toList[p]? = some c ∧ isBlank c = false

/-- All characters of the mention are blank. -/
def BlankIn (text : String) (m : Mention) : Prop :=
  ∀ p c, m.start ≤ p → p < m.stop → text.toList[p]? = some c → isBlank c = true

/-! ## What a mention covers -/

/-- A mention that fits does not run backwards, so it points nowhere. -/
theorem FitsIn.not_pointsInto {length : Nat} (h : m.FitsIn length) (t : Token) :
    ¬ m.PointsInto t := by
  intro hpoints
  have := hpoints.stop_le_start
  have := h.1
  omega

/-- A mention overlaps the words of which it has a character. -/
theorem FitsIn.overlaps_iff (h : m.FitsIn text.length) {t : Token} (ht : t ∈ tokenize text []) :
    t.overlaps m.start m.stop = true ↔
      ∃ p, m.HasWordAt text p ∧ t.start ≤ p ∧ p < t.stop := by
  have htokens := tokenization_tokenize text []
  rw [Token.overlaps_iff (htokens.start_lt_stop ht), or_iff_left (h.not_pointsInto t)]
  constructor
  · rintro ⟨p, hmention, htoken⟩
    -- what stands in a token is not blank
    obtain ⟨c, hc, hword⟩ := htokens.exists_getElem? ht htoken.1 htoken.2
    rw [isSeparator_nil] at hword
    exact ⟨p, ⟨hmention, c, hc, hword⟩, htoken⟩
  · rintro ⟨p, ⟨hmention, _⟩, htoken⟩
    exact ⟨p, hmention, htoken⟩

/-- A mention covers nothing if it is blank. -/
theorem FitsIn.cover_eq_nil_iff (h : m.FitsIn text.length) :
    cover (tokenize text []) m = [] ↔ m.BlankIn text := by
  rw [List.eq_nil_iff_forall_not_mem]
  constructor
  · intro hnone p c hstart hstop hc
    by_contra hword
    rw [Bool.not_eq_true] at hword
    -- the word to which the character belongs would be covered
    obtain ⟨t, ht, htoken⟩ := (tokenization_tokenize text []).exists_holds (Nat.zero_le p) hc
      (by rwa [isSeparator_nil])
    obtain ⟨i, hi⟩ := List.mem_iff_getElem?.1 ht
    have hover := (h.overlaps_iff ht).2 ⟨p, ⟨⟨hstart, hstop⟩, c, hc, hword⟩, htoken⟩
    exact hnone i (mem_cover.2 ⟨t, hi, hover⟩)
  · intro hblank i hi
    obtain ⟨t, ht, hover⟩ := mem_cover.1 hi
    obtain ⟨p, ⟨⟨hstart, hstop⟩, c, hc, hword⟩, _⟩ :=
      (h.overlaps_iff (List.mem_of_getElem? ht)).1 hover
    rw [hblank p c hstart hstop hc] at hword
    cases hword

/-- What a mention covers is a range of tokens, which may be empty. -/
theorem exists_cover_tokenize_eq_range' (text : String) (m : Mention) :
    ∃ first count, cover (tokenize text []) m = List.range' first count := by
  by_cases hnil : cover (tokenize text []) m = []
  · exact ⟨0, 0, hnil⟩
  · obtain ⟨first, count, hcover⟩ := exists_cover_eq_range' (inOrder_tokenize text []) hnil
    exact ⟨first, count + 1, hcover⟩

end Mention

/-! ## Mentions that are laid alike -/

section Alike

variable {tokens : List Token} {m m' : Mention} {mentions mentions' : List Mention}

/-- Mentions that overlap the same tokens cover the same ones. -/
theorem cover_eq_of_overlaps_eq
    (h : ∀ t ∈ tokens, t.overlaps m'.start m'.stop = t.overlaps m.start m.stop) :
    cover tokens m' = cover tokens m := by
  unfold cover
  congr 1
  apply List.filter_congr
  rintro ⟨t, i⟩ hmem
  exact h t (List.fst_mem_of_mem_zipIdx hmem)

/-- The mentions name the same entity and cover the same tokens. -/
structure Mention.LaidAlike (tokens : List Token) (m m' : Mention) : Prop where
  entity : m'.entity = m.entity
  cover : cover tokens m' = cover tokens m

/-- The spans are labelled alike: they belong to the same entity and take the same tokens. -/
structure Span.Alike (s s' : Span) : Prop where
  entity : s'.mention.entity = s.mention.entity
  cover : s'.cover = s.cover

/-- Of mentions that are laid alike the same ones are kept. -/
theorem forall₂_spansFrom (h : List.Forall₂ (Mention.LaidAlike tokens) mentions mentions')
    (taken : List Nat) :
    List.Forall₂ Span.Alike (spansFrom tokens taken mentions)
      (spansFrom tokens taken mentions') := by
  induction h generalizing taken with
  | nil => exact .nil
  | cons halike _ ih =>
    rw [spansFrom, spansFrom, halike.cover]
    cases Placement.ofCover _ taken with
    | kept taking => exact .cons ⟨halike.entity, rfl⟩ (ih _)
    | unaligned => exact ih taken
    | contested i => exact ih taken

/-- Spans that are labelled alike write the same. -/
theorem writeSpans_of_alike {label : Span → Nat → String}
    (hlabel : ∀ {s s' : Span}, s.Alike s' → label s' = label s) (count : Nat)
    {spans spans' : List Span} (h : List.Forall₂ Span.Alike spans spans') :
    writeSpans label count spans' = writeSpans label count spans := by
  unfold writeSpans
  generalize List.replicate count noEntity = labels
  induction h generalizing labels with
  | nil => rfl
  | cons halike _ ih =>
    rw [List.foldl_cons, List.foldl_cons, ih, writeSpan, writeSpan, hlabel halike, halike.cover]

theorem boundaryTags_of_laidAlike
    (h : List.Forall₂ (Mention.LaidAlike tokens) mentions mentions') :
    boundaryTags tokens mentions' = boundaryTags tokens mentions := by
  unfold boundaryTags
  rw [keptSpans_eq_spansFrom, keptSpans_eq_spansFrom]
  apply writeSpans_of_alike _ _ (forall₂_spansFrom h [])
  intro s s' halike
  funext i
  rw [Span.boundaryTag, Span.boundaryTag, halike.entity, halike.cover]

theorem entityLabels_of_laidAlike
    (h : List.Forall₂ (Mention.LaidAlike tokens) mentions mentions') :
    entityLabels tokens mentions' = entityLabels tokens mentions := by
  unfold entityLabels
  rw [keptSpans_eq_spansFrom, keptSpans_eq_spansFrom]
  apply writeSpans_of_alike _ _ (forall₂_spansFrom h [])
  intro s s' halike
  funext i
  exact halike.entity

end Alike

/-! ## Mentions of a text -/

/-- The mention is moved over blanks only: it fits before and after, and has a character in the same
places of words. -/
structure Mention.Respaced (text : String) (m m' : Mention) : Prop where
  entity : m'.entity = m.entity
  fitsIn : m.FitsIn text.length
  fitsIn' : m'.FitsIn text.length
  hasWordAt_iff : ∀ p, m'.HasWordAt text p ↔ m.HasWordAt text p

/-- A mention that is moved over blanks covers the words it covered before. -/
theorem Mention.Respaced.laidAlike {text : String} {m m' : Mention} (h : m.Respaced text m') :
    m.LaidAlike (tokenize text []) m' where
  entity := h.entity
  cover := by
    apply cover_eq_of_overlaps_eq
    intro t ht
    rw [Bool.eq_iff_iff, h.fitsIn'.overlaps_iff ht, h.fitsIn.overlaps_iff ht]
    simp only [h.hasWordAt_iff]

/-- What fits into a text is aligned by its words.  A mention overlaps the words of which it has a
character, so what it covers is a range of words, and it covers none only if it is blank.  So after
a reading the mentions that are dropped as unaligned are those that are blank, and mentions that are
moved over blanks give the same tags and labels as before. -/
theorem words_decide_alignment :
    (∀ (text : String) (m : Mention), m.FitsIn text.length →
      (∀ t ∈ tokenize text [], t.overlaps m.start m.stop = true ↔
        ∃ p, m.HasWordAt text p ∧ t.start ≤ p ∧ p < t.stop) ∧
      (∃ first count, cover (tokenize text []) m = List.range' first count) ∧
      (cover (tokenize text []) m = [] ↔ m.BlankIn text)) ∧
    (∀ (w : WordInterpreter) (m m' : Message), w.interpret m = .ok (some m') →
      ∀ (k : Nat) (mention : Mention), m.mentions[k]? = some mention →
        ∃ text, m.texts.text = some text ∧
          ((placements m'.tokens.text m'.mentions)[k]? = some .unaligned ↔
            mention.BlankIn text)) ∧
    ∀ (text : String) (mentions mentions' : List Mention),
      List.Forall₂ (fun m m' => m' = m ∨ m.Respaced text m') mentions mentions' →
      boundaryTags (tokenize text []) mentions' = boundaryTags (tokenize text []) mentions ∧
        entityLabels (tokenize text []) mentions' = entityLabels (tokenize text []) mentions := by
  refine ⟨?covers, ?unaligned, ?respaced⟩
  case covers =>
    intro text m hfits
    exact ⟨fun t ht => hfits.overlaps_iff ht, Mention.exists_cover_tokenize_eq_range' text m,
      hfits.cover_eq_nil_iff⟩
  case unaligned =>
    intro w m m' hread k mention hmention
    -- the mentions have been looked at, so this one fits into a text
    have hcheck := (w.eq_readAll_of_interpret hread).1
    obtain ⟨text, htext, hfits⟩ :=
      Message.exists_fitsIn_of_checkMentions hcheck (List.mem_of_getElem? hmention)
    refine ⟨text, htext, ?_⟩
    have hmentions : m'.mentions = m.mentions := by
      obtain ⟨tokens, features, rfl⟩ := WordInterpreter.exists_interpret hread
      rfl
    have hget : m.texts.get .text = some text := htext
    have htokens : m'.tokens.text = tokenize text [] := w.get_tokens_of_interpret hread hget
    rw [hmentions, getElem?_placements_eq_unaligned_iff hmention, htokens, hfits.cover_eq_nil_iff]
  case respaced =>
    intro text mentions mentions' hmoved
    have halike : List.Forall₂ (Mention.LaidAlike (tokenize text [])) mentions mentions' := by
      refine hmoved.imp ?_
      rintro m m' (rfl | hrespaced)
      · exact ⟨rfl, rfl⟩
      · exact hrespaced.laidAlike
    exact ⟨boundaryTags_of_laidAlike halike, entityLabels_of_laidAlike halike⟩

/-- Before the name of a city stand two blanks.  Taken as a mention of their own they are dropped,
and whether or not they are taken into the mention of the city makes no difference. -/
theorem words_decide_alignment_paris :
    cover (tokenize "to  paris" []) ⟨2, 9, "paris", "city", none, none⟩ ≠ [] ∧
      (∃ m', WordInterpreter.plain.interpret (.ofUtterance ⟨"to  paris",
          [⟨2, 9, "paris", "city", none, none⟩, ⟨2, 4, "", "gap", none, none⟩]⟩) = .ok (some m') ∧
        (placements m'.tokens.text m'.mentions)[1]? = some .unaligned) ∧
      boundaryTags (tokenize "to  paris" []) [⟨4, 9, "paris", "city", none, none⟩] =
        boundaryTags (tokenize "to  paris" []) [⟨2, 9, "paris", "city", none, none⟩] := by
  obtain ⟨covers, unaligned, respaced⟩ := words_decide_alignment
  have htext : ("to  paris".toList[2]? = some ' ' ∧ "to  paris".toList[3]? = some ' ') ∧
      "to  paris".toList[4]? = some 'p' := by decide +kernel
  obtain ⟨⟨htwo, hthree⟩, hfour⟩ := htext
  -- the blanks are all that the longer mention has before the shorter one
  have hblank : ∀ p c, 2 ≤ p → p < 4 → "to  paris".toList[p]? = some c → isBlank c = true := by
    intro p c hp hp' hc
    obtain rfl | rfl : p = 2 ∨ p = 3 := by omega
    · rw [htwo] at hc
      obtain rfl := Option.some.inj hc
      decide
    · rw [hthree] at hc
      obtain rfl := Option.some.inj hc
      decide
  refine ⟨?city, ?gap, ?moved⟩
  case city =>
    have hfits : Mention.FitsIn ⟨2, 9, "paris", "city", none, none⟩ "to  paris".length := by
      decide +kernel
    rw [ne_eq, (covers "to  paris" _ hfits).2.2]
    intro hnone
    exact absurd (hnone 4 'p' (by decide) (by decide) hfour) (by decide)
  case gap =>
    let m := Message.ofUtterance ⟨"to  paris",
      [⟨2, 9, "paris", "city", none, none⟩, ⟨2, 4, "", "gap", none, none⟩]⟩
    have hcheck : m.checkMentions = .ok () := by decide +kernel
    have hget : m.texts.get .text = some "to  paris" := rfl
    have hread := WordInterpreter.plain.interpret_of_text m hcheck hget
    obtain ⟨text, htext, hiff⟩ := unaligned _ m _ hread 1 _ rfl
    obtain rfl := Option.some.inj htext
    exact ⟨_, hread, hiff.2 hblank⟩
  case moved =>
    have hmoved : Mention.Respaced "to  paris" ⟨2, 9, "paris", "city", none, none⟩
        ⟨4, 9, "paris", "city", none, none⟩ := by
      refine ⟨rfl, by decide +kernel, by decide +kernel, ?_⟩
      intro p
      constructor
      · rintro ⟨⟨hstart, hstop⟩, hword⟩
        exact ⟨⟨Nat.le_trans (by decide) hstart, hstop⟩, hword⟩
      · rintro ⟨⟨hstart, hstop⟩, c, hc, hword⟩
        refine ⟨⟨?_, hstop⟩, c, hc, hword⟩
        by_contra hbefore
        rw [hblank p c hstart (Nat.lt_of_not_le hbefore) hc] at hword
        cases hword
    exact (respaced "to  paris" _ _ (.cons (.inr hmoved) .nil)).1

end TargetEncoding
