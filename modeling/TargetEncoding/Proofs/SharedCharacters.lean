import TargetEncoding.Proofs.BoundaryTag
import TargetEncoding.Proofs.Conflicts
import TargetEncoding.Proofs.Token
import TargetEncoding.Proofs.Tokenization

/-!
# Characters that mentions share with tokens

Whether a mention covers a token is decided by comparing their ends.  For a mention that has
characters this asks for one that both have.  A mention that is empty or runs backwards has none;
still it covers a token if its ends lie inside the token, and so the token is tagged.

## Key results

- `Token.overlaps_iff`: what the comparison of the ends means
- `cover_of_pointsInto`: a mention without characters covers one token at most
- `tagged_by_shared_or_pointing`: which mentions make a token part of an entity
- `not_tagged_by_shared`: they need not share a character with it
-/

namespace TargetEncoding

/-! ## Ends and characters -/

namespace Mention

/-- The mention has a character that the token has. -/
def Shares (m : Mention) (t : Token) : Prop :=
  ∃ p, (m.start ≤ p ∧ p < m.stop) ∧ t.start ≤ p ∧ p < t.stop

/-- The mention has no characters, and its ends lie inside the token. -/
structure PointsInto (m : Mention) (t : Token) : Prop where
  stop_le_start : m.stop ≤ m.start
  start_lt_stop : t.start < m.stop
  start_lt : m.start < t.stop

/-- A mention with characters does not point. -/
theorem Shares.not_pointsInto {m : Mention} {s t : Token} (h : m.Shares s) : ¬ m.PointsInto t := by
  intro hpoints
  obtain ⟨p, ⟨hstart, hstop⟩, _⟩ := h
  have := hpoints.stop_le_start
  omega

/-- A mention that points into a token starts at one of its characters. -/
theorem PointsInto.start_mem {m : Mention} {t : Token} (h : m.PointsInto t) :
    t.start ≤ m.start ∧ m.start < t.stop := by
  have := h.stop_le_start
  have := h.start_lt_stop
  exact ⟨by omega, h.start_lt⟩

end Mention

/-- A mention overlaps a token that is not empty if they share a character, or if it has none and
points into the token. -/
theorem Token.overlaps_iff {t : Token} (ht : t.start < t.stop) (m : Mention) :
    t.overlaps m.start m.stop = true ↔ m.Shares t ∨ m.PointsInto t := by
  rw [overlaps, Bool.and_eq_true, decide_eq_true_eq, decide_eq_true_eq]
  constructor
  · intro hends
    obtain ⟨hstart, hstop⟩ := hends
    by_cases hlt : m.start < m.stop
    · -- the later one of the two starts is in both
      exact .inl ⟨max m.start t.start, by omega, by omega⟩
    · exact .inr ⟨by omega, hstart, hstop⟩
  · intro hmeet
    obtain ⟨p, hmention, htoken⟩ | hpoints := hmeet
    · omega
    · exact ⟨hpoints.start_lt_stop, hpoints.start_lt⟩

/-! ## The tokens of a text -/

section Text

variable {text : String} {extra : List Char} {i : Nat} {t : Token}

theorem tokenization_tokenize (text : String) (extra : List Char) :
    Tokenization (isSeparator extra) text.toList 0 (tokenize text extra) := by
  rw [tokenize_eq_tokensFrom]
  exact (tokenization_iff_tokensFrom List.drop_zero _).2 rfl

/-- A position lies in one token at most. -/
theorem index_eq_of_position {j : Nat} {s : Token} {p : Nat}
    (ht : (tokenize text extra)[i]? = some t) (hpt : t.start ≤ p ∧ p < t.stop)
    (hs : (tokenize text extra)[j]? = some s) (hps : s.start ≤ p ∧ p < s.stop) : i = j := by
  obtain ⟨hi, rfl⟩ := List.getElem?_eq_some_iff.1 ht
  obtain ⟨hj, rfl⟩ := List.getElem?_eq_some_iff.1 hs
  have hapart := List.pairwise_iff_getElem.1 (pairwise_tokenize text extra)
  rcases Nat.lt_trichotomy i j with hij | heq | hji
  · have hle : (tokenize text extra)[i].stop ≤ (tokenize text extra)[j].start :=
      hapart i j hi hj hij
    omega
  · exact heq
  · have hle : (tokenize text extra)[j].stop ≤ (tokenize text extra)[i].start :=
      hapart j i hj hi hji
    omega

variable {m : Mention} (ht : (tokenize text extra)[i]? = some t)

include ht

/-- A mention covers the tokens of a text with which it shares a character, and one into which it
points. -/
theorem mem_cover_tokenize_iff :
    i ∈ cover (tokenize text extra) m ↔ m.Shares t ∨ m.PointsInto t := by
  have hne := (tokenization_tokenize text extra).start_lt_stop (List.mem_of_getElem? ht)
  rw [mem_cover, ← Token.overlaps_iff hne]
  constructor
  · intro hover
    obtain ⟨t', ht', hover⟩ := hover
    obtain rfl := Option.some.inj (ht.symm.trans ht')
    exact hover
  · intro hover
    exact ⟨t, ht, hover⟩

/-- A mention that points into a token covers no other one. -/
theorem eq_of_mem_cover_of_pointsInto (hpoints : m.PointsInto t) {j : Nat}
    (hj : j ∈ cover (tokenize text extra) m) : j = i := by
  obtain ⟨s, hs, _⟩ := mem_cover.1 hj
  obtain hshares | hpoints' := (mem_cover_tokenize_iff hs).1 hj
  · exact absurd hpoints hshares.not_pointsInto
  · -- its start lies in both tokens
    exact index_eq_of_position hs hpoints'.start_mem ht hpoints.start_mem

/-- A mention that points into a token is kept, or another one that is kept covers the token. -/
theorem exists_kept_of_pointsInto {mentions : List Mention} (hm : m ∈ mentions)
    (hpoints : m.PointsInto t) :
    ∃ k, isKeptAt (tokenize text extra) mentions k = true ∧
      i ∈ (spanAt (tokenize text extra) mentions k).cover := by
  obtain ⟨n, hn, rfl⟩ := List.getElem_of_mem hm
  let k : Fin mentions.length := ⟨n, hn⟩
  have hcovers : i ∈ cover (tokenize text extra) mentions[k] :=
    (mem_cover_tokenize_iff ht).2 (.inr hpoints)
  cases hkept : isKeptAt (tokenize text extra) mentions k with
  | true => exact ⟨k, hkept, hcovers⟩
  | false =>
    -- the only token that it could have lost is this one
    obtain ⟨j, _, hj, i', hik, hij⟩ := exists_taken_of_not_isKeptAt hkept hcovers
    obtain rfl := eq_of_mem_cover_of_pointsInto ht hpoints hik
    exact ⟨j, hj, hij⟩

end Text

/-- A token of a text is tagged only if a mention shares a character with it or points into it.  A
token into which a mention points is always tagged, since this mention can lose it only to another
one that is kept. -/
theorem tagged_by_shared_or_pointing (text : String) (extra : List Char) (mentions : List Mention)
    {i : Nat} {t : Token} {tag : String} (ht : (tokenize text extra)[i]? = some t)
    (htag : (boundaryTags (tokenize text extra) mentions)[i]? = some tag) :
    (tag ≠ noEntity → (∃ m ∈ mentions, m.Shares t) ∨ ∃ m ∈ mentions, m.PointsInto t) ∧
      ((∃ m ∈ mentions, m.PointsInto t) → tag ≠ noEntity) := by
  constructor
  · intro htagged
    by_contra hnone
    rw [not_or] at hnone
    obtain ⟨hshares, hpoints⟩ := hnone
    have hfree : ∀ k, isKeptAt (tokenize text extra) mentions k = true →
        i ∉ cover (tokenize text extra) mentions[k] := by
      intro k _ hcovers
      have hmem : mentions[k] ∈ mentions := List.getElem_mem k.isLt
      obtain h | h := (mem_cover_tokenize_iff ht).1 hcovers
      · exact hshares ⟨_, hmem, h⟩
      · exact hpoints ⟨_, hmem, h⟩
    have hlt := (List.getElem?_eq_some_iff.1 ht).1
    have hlabel := getElem?_writeSpans_of_free Span.boundaryTag hlt hfree
    exact htagged (Option.some.inj (htag.symm.trans hlabel))
  · intro hpoints
    obtain ⟨m, hm, hpoints⟩ := hpoints
    obtain ⟨k, hkept, hcovers⟩ := exists_kept_of_pointsInto ht hm hpoints
    have hlabel := getElem?_writeSpans_of_isKeptAt Span.boundaryTag hkept hcovers
    rw [Option.some.inj (htag.symm.trans hlabel)]
    exact Boundary.tag_ne_noEntity _ _

/-- A token can be tagged although no mention shares a character with it. -/
theorem not_tagged_by_shared :
    ¬ ∀ (text : String) (mentions : List Mention) (i : Nat) (t : Token) (tag : String),
      (tokenize text [])[i]? = some t →
      (boundaryTags (tokenize text []) mentions)[i]? = some tag →
      tag ≠ noEntity → ∃ m ∈ mentions, m.Shares t := by
  intro hall
  let mentions : List Mention := [⟨2, 2, "", "city", none, none⟩]
  have ht : (tokenize "paris" [])[0]? = some ⟨"paris", 0, 5⟩ := by decide +kernel
  have htag : (boundaryTags (tokenize "paris" []) mentions)[0]? = some "U-city" := by decide +kernel
  obtain ⟨m, hm, p, ⟨hstart, hstop⟩, _⟩ := hall "paris" mentions 0 _ _ ht htag (by decide)
  obtain rfl := List.mem_singleton.1 hm
  exact absurd hstop (Nat.not_lt.2 hstart)

/-- An empty mention inside a word tags it, and takes it from the mention of the whole word. -/
theorem tagged_by_shared_or_pointing_empty :
    let mentions : List Mention :=
      [⟨2, 2, "", "city", none, none⟩, ⟨0, 5, "paris", "name", none, none⟩]
    (tokenize "paris" [])[0]? = some ⟨"paris", 0, 5⟩ ∧
      (boundaryTags (tokenize "paris" []) mentions)[0]? = some "U-city" ∧
      "U-city" ≠ noEntity := by
  intro mentions
  have ht : (tokenize "paris" [])[0]? = some ⟨"paris", 0, 5⟩ := by decide +kernel
  have htag : (boundaryTags (tokenize "paris" []) mentions)[0]? = some "U-city" := by decide +kernel
  have hpoints : (⟨2, 2, "", "city", none, none⟩ : Mention).PointsInto ⟨"paris", 0, 5⟩ :=
    ⟨by decide, by decide, by decide⟩
  exact ⟨ht, htag,
    (tagged_by_shared_or_pointing "paris" [] mentions ht htag).2 ⟨_, List.mem_cons_self, hpoints⟩⟩

end TargetEncoding
