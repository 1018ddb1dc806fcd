import Mathlib.Data.List.Chain
import TargetEncoding.Proofs.Token

/-!
# Tokens are the words of a text

The positions of a text are its characters, counted from 0.  `Tokenization` says what it is to cut a
text into tokens by looking at positions only: tokens are pieces of the text without separators,
they do not touch, and no position is missed or taken twice.  Only one list of tokens does this, the
one that `tokenize` finds.

The invariant carries the position from which on the text is still to be cut.  A separator there is
passed over, and a word there is the first token.

## Key results

- `pairwise_of_isChain`: tokens of which neighbours do not touch are apart from one another
- `Tokenization.separator_iff`: a separator in front makes no difference
- `tokenization_run_iff`: a word in front is the first token
- `tokenization_iff_tokensFrom`: the invariant of the recursion
- `tokenization_iff_eq_tokenize`: a text is cut in one way, and `tokenize` finds it
-/

namespace TargetEncoding

/-- The position lies in the token. -/
def Token.holds (t : Token) (i : Nat) : Bool :=
  t.start ≤ i && i < t.stop

theorem Token.holds_iff {t : Token} {i : Nat} : t.holds i = true ↔ t.start ≤ i ∧ i < t.stop := by
  simp [holds]

/-- The tokens are those of the text `cs` from the position `first` on. -/
structure Tokenization (isSeparator : Char → Bool) (cs : List Char) (first : Nat)
    (tokens : List Token) : Prop where
  /-- A token lies in the text and has the characters at the positions from its start to before its
  stop. -/
  piece : ∀ t ∈ tokens,
    first ≤ t.start ∧ t.stop ≤ cs.length ∧ t.text.toList = cs.extract t.start t.stop
  /-- A token is not empty and has no separator. -/
  word : ∀ t ∈ tokens, t.text ≠ "" ∧ ∀ c ∈ t.text.toList, isSeparator c = false
  /-- A token stops before the next one starts, and does not touch it. -/
  apart : tokens.IsChain fun s t => s.stop < t.start
  /-- A position lies in no token if a separator stands there, and in exactly one otherwise. -/
  once : ∀ i c, first ≤ i → cs[i]? = some c →
    tokens.countP (·.holds i) = if isSeparator c then 0 else 1

/-- If no token runs backwards, it is enough that neighbours do not touch. -/
theorem pairwise_of_isChain {tokens : List Token} (hlt : ∀ t ∈ tokens, t.start < t.stop)
    (hchain : tokens.IsChain fun s t => s.stop < t.start) :
    tokens.Pairwise fun s t => s.stop < t.start := by
  induction tokens with
  | nil => exact List.Pairwise.nil
  | cons s tokens ih =>
    obtain ⟨hnext, hchain'⟩ := List.isChain_cons.1 hchain
    have hrest := ih (fun t ht => hlt t (List.mem_cons_of_mem s ht)) hchain'
    refine List.Pairwise.cons ?_ hrest
    intro t ht
    cases tokens with
    | nil => exact nomatch ht
    | cons a tokens =>
      -- `t` is the next token `a`, or behind it
      have hsa : s.stop < a.start := hnext a rfl
      obtain rfl | ht := List.mem_cons.1 ht
      · exact hsa
      · have haa := hlt a (by simp)
        have hat := (List.pairwise_cons.1 hrest).1 t ht
        omega

namespace Tokenization

variable {isSeparator : Char → Bool} {cs : List Char} {first : Nat} {tokens : List Token}

theorem start_lt_stop (h : Tokenization isSeparator cs first tokens) {t : Token}
    (ht : t ∈ tokens) : t.start < t.stop := by
  obtain ⟨_, _, htext⟩ := h.piece t ht
  have hne := (h.word t ht).1
  by_cases hlt : t.start < t.stop
  · exact hlt
  · -- a token that runs backwards has no characters
    have hzero : t.stop - t.start = 0 := by omega
    rw [List.extract_eq_take_drop, hzero, List.take_zero] at htext
    exact absurd (String.toList_eq_nil_iff.1 htext) hne

/-- The character at a position of a token is none of the separators. -/
theorem exists_getElem? (h : Tokenization isSeparator cs first tokens) {t : Token}
    (ht : t ∈ tokens) {i : Nat} (hi : t.start ≤ i) (hi' : i < t.stop) :
    ∃ c, cs[i]? = some c ∧ isSeparator c = false := by
  obtain ⟨_, hstop, htext⟩ := h.piece t ht
  have hlt : i < cs.length := by omega
  refine ⟨cs[i], List.getElem?_eq_getElem hlt, (h.word t ht).2 _ ?_⟩
  have hget : (cs.extract t.start t.stop)[i - t.start]? = some cs[i] := by
    have hadd : t.start + (i - t.start) = i := by omega
    rw [List.extract_eq_take_drop, List.getElem?_take, if_pos (by omega), List.getElem?_drop, hadd,
      List.getElem?_eq_getElem hlt]
  rw [htext]
  exact List.mem_of_getElem? hget

/-- A position that no separator takes lies in a token. -/
theorem exists_holds (h : Tokenization isSeparator cs first tokens) {i : Nat} {c : Char}
    (hi : first ≤ i) (hc : cs[i]? = some c) (hword : isSeparator c = false) :
    ∃ t ∈ tokens, t.start ≤ i ∧ i < t.stop := by
  -- the position is counted once, so some token has to hold it
  have hcount := h.once i c hi hc
  rw [hword, if_neg Bool.false_ne_true] at hcount
  obtain ⟨t, ht, hholds⟩ := List.countP_pos_iff.1 (Nat.lt_of_lt_of_eq Nat.one_pos hcount.symm)
  exact ⟨t, ht, Token.holds_iff.1 hholds⟩

/-- Behind the end of the text there is nothing to cut. -/
theorem eq_nil_of_length_le (h : Tokenization isSeparator cs first tokens)
    (hend : cs.length ≤ first) : tokens = [] := by
  apply List.eq_nil_iff_forall_not_mem.2
  intro t ht
  obtain ⟨hstart, hstop, _⟩ := h.piece t ht
  have := h.start_lt_stop ht
  omega

theorem nil (hend : cs.length ≤ first) : Tokenization isSeparator cs first [] where
  piece := nofun
  word := nofun
  apart := List.IsChain.nil
  once i c hi hc := by
    have := (List.getElem?_eq_some_iff.1 hc).1
    omega

/-- No token starts at a separator. -/
theorem start_ne (h : Tokenization isSeparator cs first tokens) {t : Token} (ht : t ∈ tokens)
    {i : Nat} (hi : ∀ c, cs[i]? = some c → isSeparator c = true) : t.start ≠ i := by
  intro hstart
  obtain ⟨c, hc, hword⟩ := h.exists_getElem? ht (Nat.le_of_eq hstart) (hstart ▸ h.start_lt_stop ht)
  rw [hi c hc] at hword
  exact nomatch hword

/-- The later tokens do not touch the first one. -/
theorem stop_lt_start {t : Token} (h : Tokenization isSeparator cs first (t :: tokens))
    {s : Token} (hs : s ∈ tokens) : t.stop < s.start := by
  have hpair := pairwise_of_isChain (fun t ht => h.start_lt_stop ht) h.apart
  exact (List.pairwise_cons.1 hpair).1 s hs

/-- Behind the first token the later ones are left. -/
theorem tail {t : Token} (h : Tokenization isSeparator cs first (t :: tokens)) :
    Tokenization isSeparator cs t.stop tokens where
  piece := by
    intro s hs
    have := h.stop_lt_start hs
    exact ⟨by omega, (h.piece s (List.mem_cons_of_mem t hs)).2⟩
  word s hs := h.word s (List.mem_cons_of_mem t hs)
  apart := (List.isChain_cons.1 h.apart).2
  once := by
    intro i c hi hc
    have hfirst := (h.piece t List.mem_cons_self).1
    have hlt := h.start_lt_stop List.mem_cons_self
    -- behind its stop the first token does not count
    have hcount := h.once i c (by omega) hc
    have hnot : ¬ t.holds i = true := by
      rw [Token.holds_iff]
      omega
    rwa [List.countP_cons, if_neg hnot, Nat.add_zero] at hcount

/-- A separator in front is passed over. -/
theorem separator_iff {c : Char} (hc : cs[first]? = some c) (hsep : isSeparator c = true) :
    Tokenization isSeparator cs first tokens ↔ Tokenization isSeparator cs (first + 1) tokens := by
  constructor
  · intro h
    refine ⟨?_, h.word, h.apart, fun i c hi => h.once i c (by omega)⟩
    intro t ht
    obtain ⟨hstart, hpiece⟩ := h.piece t ht
    have hne : t.start ≠ first := h.start_ne ht fun c' hc' => by
      rw [hc, Option.some.injEq] at hc'
      exact hc' ▸ hsep
    exact ⟨by omega, hpiece⟩
  · intro h
    refine ⟨?_, h.word, h.apart, ?_⟩
    · intro t ht
      obtain ⟨hstart, hpiece⟩ := h.piece t ht
      exact ⟨by omega, hpiece⟩
    · intro i c' hi hc'
      by_cases hfirst : i = first
      · -- all tokens start behind the separator
        subst hfirst
        rw [hc, Option.some.injEq] at hc'
        rw [← hc', hsep, if_pos rfl, List.countP_eq_zero]
        intro t ht hholds
        have := (h.piece t ht).1
        have := (Token.holds_iff.1 hholds).1
        omega
      · exact h.once i c' (by omega) hc'

end Tokenization

/-! ## The word in front -/

/-- From `start` to before `stop` the text has no separators, and there the word ends. -/
structure Run (isSeparator : Char → Bool) (cs : List Char) (start stop : Nat) : Prop where
  lt : start < stop
  le : stop ≤ cs.length
  inside : ∀ i c, start ≤ i → i < stop → cs[i]? = some c → isSeparator c = false
  ends : ∀ c, cs[stop]? = some c → isSeparator c = true

section Word

variable {isSeparator : Char → Bool} {cs : List Char}

/-- Characters up to the next separator are a run. -/
theorem run_of_drop_eq_append {first : Nat} {word behind : List Char}
    (hdrop : cs.drop first = word ++ behind) (hne : word ≠ [])
    (hword : ∀ c ∈ word, isSeparator c = false)
    (hbehind : ∀ c, behind.head? = some c → isSeparator c = true) :
    Run isSeparator cs first (first + word.length) ∧
      cs.extract first (first + word.length) = word := by
  -- positions are counted from `first` on, in the word and in what is behind it
  have hget : ∀ k, cs[first + k]? = (word ++ behind)[k]? := by
    intro k
    rw [← hdrop, List.getElem?_drop]
  have hpos : 0 < word.length := List.length_pos_iff.2 hne
  have hlen := congrArg List.length hdrop
  rw [List.length_drop, List.length_append] at hlen
  refine ⟨⟨by omega, by omega, ?_, ?_⟩, ?_⟩
  · intro i c hi hi' hc
    obtain ⟨k, rfl⟩ := Nat.exists_eq_add_of_le hi
    rw [hget, List.getElem?_append_left (by omega)] at hc
    exact hword c (List.mem_of_getElem? hc)
  · intro c hc
    rw [hget, List.getElem?_append_right (Nat.le_refl _), Nat.sub_self, ← List.head?_eq_getElem?]
      at hc
    exact hbehind c hc
  · rw [List.extract_eq_take_drop, hdrop, Nat.add_sub_cancel_left, List.take_left]

variable {w t : Token} {later : List Token} (hrun : Run isSeparator cs w.start w.stop)

include hrun

/-- Every position of the word lies in a token. -/
private theorem exists_holds_of_run {first i : Nat} {tokens : List Token}
    (h : Tokenization isSeparator cs first tokens) (hfirst : first ≤ i) (hi : w.start ≤ i)
    (hi' : i < w.stop) : ∃ t ∈ tokens, t.start ≤ i ∧ i < t.stop := by
  have hle := hrun.le
  have hc : cs[i]? = some cs[i] := List.getElem?_eq_getElem (by omega)
  exact h.exists_holds hfirst hc (hrun.inside i _ hi hi' hc)

/-- The token in front starts where the word does. -/
private theorem start_eq_of_run (h : Tokenization isSeparator cs w.start (t :: later)) :
    t.start = w.start := by
  have hfirst := (h.piece t List.mem_cons_self).1
  have htlt := h.start_lt_stop List.mem_cons_self
  -- the first position lies in a token, and if that is a later one then also in the first one
  obtain ⟨s, hs, hstart, _⟩ :=
    exists_holds_of_run hrun h (Nat.le_refl _) (Nat.le_refl _) hrun.lt
  obtain rfl | hs := List.mem_cons.1 hs
  · omega
  · have := h.stop_lt_start hs
    omega

/-- The token in front stops where the word does. -/
private theorem stop_eq_of_run (h : Tokenization isSeparator cs w.start (t :: later)) :
    t.stop = w.stop := by
  have hlt := hrun.lt
  have htstart := start_eq_of_run hrun h
  have htlt := h.start_lt_stop List.mem_cons_self
  rcases Nat.lt_trichotomy t.stop w.stop with hshort | heq | hlong
  · -- a token that stopped early would leave the next position to a token that touches it
    obtain ⟨s, hs, hle, hlt⟩ := exists_holds_of_run hrun h (by omega) (by omega) hshort
    obtain rfl | hs := List.mem_cons.1 hs
    · omega
    · have := h.stop_lt_start hs
      omega
  · exact heq
  · -- a token that stopped late would have the end of the word in it
    obtain ⟨c, hc, hword⟩ :=
      h.exists_getElem? List.mem_cons_self (i := w.stop) (by omega) hlong
    rw [hrun.ends c hc] at hword
    exact nomatch hword

variable (htext : w.text.toList = cs.extract w.start w.stop)

include htext

/-- The token in front is the word. -/
theorem Tokenization.head_eq_of_run (h : Tokenization isSeparator cs w.start (t :: later)) :
    t = w := by
  have hstart := start_eq_of_run hrun h
  have hstop := stop_eq_of_run hrun h
  have hchars : t.text = w.text := by
    rw [← String.toList_inj, (h.piece t List.mem_cons_self).2.2, htext, hstart, hstop]
  cases t
  cases w
  rw [Token.mk.injEq]
  exact ⟨hchars, hstart, hstop⟩

/-- The word can be put in front of the tokens that are behind it. -/
theorem Tokenization.cons_of_run (h : Tokenization isSeparator cs w.stop later) :
    Tokenization isSeparator cs w.start (w :: later) := by
  have hlt := hrun.lt
  have hle := hrun.le
  have hextract : ∀ k, (cs.extract w.start w.stop)[k]? =
      if k < w.stop - w.start then cs[w.start + k]? else none := by
    intro k
    rw [List.extract_eq_take_drop, List.getElem?_take, List.getElem?_drop]
  -- the later tokens start behind the separator that ends the word
  have hbehind : ∀ s ∈ later, w.stop < s.start := by
    intro s hs
    have := (h.piece s hs).1
    have := h.start_ne hs hrun.ends
    omega
  refine ⟨?_, ?_, ?_, ?_⟩
  · refine List.forall_mem_cons.2 ⟨⟨Nat.le_refl _, hle, htext⟩, ?_⟩
    intro s hs
    have := hbehind s hs
    exact ⟨by omega, (h.piece s hs).2⟩
  · refine List.forall_mem_cons.2 ⟨⟨?_, ?_⟩, h.word⟩
    · -- the word has the character it starts with
      intro hempty
      have hget := hextract 0
      have hlt' : w.start < cs.length := by omega
      rw [← htext, hempty, if_pos (by omega), Nat.add_zero, List.getElem?_eq_getElem hlt'] at hget
      exact nomatch hget
    · intro c hc
      rw [htext] at hc
      obtain ⟨k, hk⟩ := List.mem_iff_getElem?.1 hc
      rw [hextract] at hk
      split at hk
      · exact hrun.inside _ c (by omega) (by omega) hk
      · exact nomatch hk
  · rw [List.isChain_cons]
    exact ⟨fun s hs => hbehind s (List.mem_of_mem_head? hs), h.apart⟩
  · intro i c hi hc
    by_cases hin : i < w.stop
    · -- the position lies in the word, and the later tokens are behind it
      have hholds : w.holds i = true := Token.holds_iff.2 ⟨hi, hin⟩
      have hnone : later.countP (·.holds i) = 0 := by
        rw [List.countP_eq_zero]
        intro s hs hholds
        have := hbehind s hs
        have := (Token.holds_iff.1 hholds).1
        omega
      rw [List.countP_cons, if_pos hholds, hnone, hrun.inside i c hi hin hc]
      rfl
    · have hnot : ¬ w.holds i = true := by
        rw [Token.holds_iff]
        omega
      rw [List.countP_cons, if_neg hnot, Nat.add_zero]
      exact h.once i c (by omega) hc

/-- A word in front is the first token, and the others cut what is behind it. -/
theorem tokenization_run_iff (tokens : List Token) :
    Tokenization isSeparator cs w.start tokens ↔
      ∃ later, tokens = w :: later ∧ Tokenization isSeparator cs w.stop later := by
  constructor
  · intro h
    cases tokens with
    | nil =>
      -- some token has to hold the first position
      obtain ⟨s, hs, _⟩ := exists_holds_of_run hrun h (Nat.le_refl _) (Nat.le_refl _) hrun.lt
      exact nomatch hs
    | cons t later =>
      obtain rfl := h.head_eq_of_run hrun htext
      exact ⟨later, rfl, h.tail⟩
  · intro h
    obtain ⟨later, rfl, h⟩ := h
    exact h.cons_of_run hrun htext

end Word

/-! ## The tokens of a text -/

/-- The invariant of the recursion: the tokens found are those of the rest of the text. -/
theorem tokenization_iff_tokensFrom {isSeparator : Char → Bool} {cs rest : List Char}
    {first : Nat} (hrest : cs.drop first = rest) (tokens : List Token) :
    Tokenization isSeparator cs first tokens ↔ tokens = tokensFrom isSeparator first rest := by
  -- the tokens are general, since what is behind a word is cut into the later ones
  fun_induction tokensFrom isSeparator first rest generalizing tokens with
  | case1 first =>
    have hend : cs.length ≤ first := List.drop_eq_nil_iff.1 hrest
    constructor
    · intro h
      exact h.eq_nil_of_length_le hend
    · intro h
      rw [h]
      exact .nil hend
  | case2 first c rest hsep ih =>
    have hc : cs[first]? = some c := by
      rw [← List.head?_drop, hrest, List.head?_cons]
    have hrest' : cs.drop (first + 1) = rest := by
      rw [← List.drop_drop, hrest, List.drop_one, List.tail_cons]
    rw [Tokenization.separator_iff hc hsep, ih hrest']
  | case3 first c rest hsep word ih =>
    -- the word has no separators, and one follows it unless the text ends
    obtain ⟨hcut, hword, hbehind⟩ := word_append_behind hsep rest
    have hdrop : cs.drop first = word ++ rest.dropWhile (!isSeparator ·) := hrest.trans hcut
    obtain ⟨hrun, hextract⟩ := run_of_drop_eq_append hdrop (List.cons_ne_nil _ _) hword hbehind
    -- the token of the word, and where it stops
    have htoken : Token.startingAt first (String.ofList word) =
        ⟨String.ofList word, first, first + word.length⟩ := by
      rw [Token.startingAt, String.length_ofList]
    have hlater : cs.drop (first + word.length) = rest.dropWhile (!isSeparator ·) := by
      rw [← List.drop_drop, hdrop, List.drop_left]
    have hiff := tokenization_run_iff (w := ⟨String.ofList word, first, first + word.length⟩) hrun
      (by rw [String.toList_ofList, hextract]) tokens
    rw [htoken, hiff]
    simp only [ih hlater, exists_eq_right]

/-- A text can be cut into tokens in one way only, and `tokenize` does it: its tokens are pieces of
the text without separators, they are apart from one another, and every position lies in one of them
unless it is that of a separator. -/
theorem tokenization_iff_eq_tokenize (text : String) (extra : List Char) (tokens : List Token) :
    Tokenization (isSeparator extra) text.toList 0 tokens ↔ tokens = tokenize text extra := by
  rw [tokenize_eq_tokensFrom]
  exact tokenization_iff_tokensFrom List.drop_zero tokens

end TargetEncoding
