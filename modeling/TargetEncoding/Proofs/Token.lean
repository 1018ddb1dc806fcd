import TargetEncoding.Token

/-!
# The words of a text and their order

A text is read character by character, with a word that may be begun.  The tokens are those that a
recursion over whole words finds, which cuts off the separators and the next word in turn.  They
come one behind the other.  Alignment asks for less: that neither the starts nor the stops ever go
backwards.

## Key results

- `TokenScan.toList_tokens_flush_foldl`: what a scan comes to that has a word begun, or none
- `tokenize_eq_tokensFrom`: reading character by character finds the words
- `pairwise_tokenize`: a token ends before the next one begins
- `inOrder_tokenize`: the tokens of a text are in order
-/

namespace TargetEncoding

/-! ## Word by word -/

/-- The tokens of `cs`, whose first character has the offset `offset`. -/
def tokensFrom (isSeparator : Char → Bool) (offset : Nat) (cs : List Char) : List Token :=
  match cs with
  | [] => []
  | c :: rest =>
    if isSeparator c then tokensFrom isSeparator (offset + 1) rest
    else
      let word := c :: rest.takeWhile (!isSeparator ·)
      Token.startingAt offset (String.ofList word) ::
        tokensFrom isSeparator (offset + word.length) (rest.dropWhile (!isSeparator ·))
termination_by cs.length
decreasing_by
  · exact Nat.lt_succ_self _
  · exact Nat.lt_succ_of_le (List.dropWhile_sublist _).length_le

section Scan

variable {p : Char → Bool} {c : Char}

theorem tokensFrom_nil (p : Char → Bool) (offset : Nat) : tokensFrom p offset [] = [] := by
  simp [tokensFrom]

theorem tokensFrom_separator (h : p c = true) (offset : Nat) (rest : List Char) :
    tokensFrom p offset (c :: rest) = tokensFrom p (offset + 1) rest := by
  rw [tokensFrom, if_pos h]

theorem tokensFrom_word (h : ¬ p c = true) (offset : Nat) (rest : List Char) :
    tokensFrom p offset (c :: rest) =
      .startingAt offset (String.ofList (c :: rest.takeWhile (!p ·))) ::
        tokensFrom p (offset + 1 + (rest.takeWhile (!p ·)).length) (rest.dropWhile (!p ·)) := by
  have hlength : offset + (c :: rest.takeWhile (!p ·)).length =
      offset + 1 + (rest.takeWhile (!p ·)).length := by
    rw [List.length_cons, Nat.add_right_comm, Nat.add_assoc]
  rw [tokensFrom, if_neg h, ← hlength]

namespace TokenScan

variable {scan : TokenScan}

/-- The tokens that are still to come when a scan goes on with `cs`: the word that is begun goes up
to the next separator. -/
def remaining (p : Char → Bool) (scan : TokenScan) (offset : Nat) (cs : List Char) : List Token :=
  if scan.word.isEmpty then tokensFrom p offset cs
  else
    .startingAt scan.start (String.ofList (scan.word.reverse ++ cs.takeWhile (!p ·))) ::
      tokensFrom p (offset + (cs.takeWhile (!p ·)).length) (cs.dropWhile (!p ·))

/-- At the end a word that is begun is complete. -/
theorem toList_tokens_flush (p : Char → Bool) (scan : TokenScan) (offset : Nat) :
    scan.flush.tokens.toList = scan.tokens.toList ++ scan.remaining p offset [] := by
  unfold flush remaining
  split <;> simp [tokensFrom_nil]

/-- A separator completes the word, and leaves no other begun. -/
theorem remaining_separator (h : p c = true) (offset : Nat) (cs : List Char) :
    scan.tokens.toList ++ scan.remaining p offset (c :: cs) =
      scan.flush.tokens.toList ++ scan.flush.remaining p (offset + 1) cs := by
  by_cases hword : scan.word.isEmpty
  · simp only [flush, remaining, hword, if_true, tokensFrom_separator h]
  · simp [flush, remaining, hword, h, tokensFrom_separator h]

/-- Any other character belongs to the word that is begun, or begins one. -/
theorem remaining_character (h : ¬ p c = true) (offset : Nat) (cs : List Char) :
    scan.remaining p offset (c :: cs) =
      remaining p { scan with
        word := c :: scan.word
        start := if scan.word.isEmpty then offset else scan.start } (offset + 1) cs := by
  by_cases hword : scan.word.isEmpty
  · have hnil : scan.word = [] := List.isEmpty_iff.1 hword
    simp [remaining, hnil, tokensFrom_word h]
  · simp [remaining, hword, h, Nat.add_assoc, Nat.add_comm 1]

/-- Reading on, a scan adds to its tokens those that are still to come. -/
theorem toList_tokens_flush_foldl (p : Char → Bool) (scan : TokenScan) (offset : Nat)
    (cs : List Char) :
    ((cs.zipIdx offset).foldl (step p) scan).flush.tokens.toList =
      scan.tokens.toList ++ scan.remaining p offset cs := by
  induction cs generalizing scan offset with
  | nil => exact toList_tokens_flush p scan offset
  | cons c cs ih =>
    rw [List.zipIdx_cons, List.foldl_cons, ih, step]
    by_cases hc : p c = true
    · rw [if_pos hc, remaining_separator hc]
    · rw [if_neg hc, remaining_character hc]

end TokenScan

end Scan

/-- Reading character by character finds the words of a text. -/
theorem tokenize_eq_tokensFrom (text : String) (extra : List Char) :
    tokenize text extra = tokensFrom (isSeparator extra) 0 text.toList :=
  TokenScan.toList_tokens_flush_foldl _ .init 0 _

/-! ## The order of tokens -/

/-- Neither the starts nor the stops of the tokens go backwards. -/
structure InOrder (tokens : List Token) : Prop where
  starts : tokens.Pairwise fun s t => s.start ≤ t.start
  stops : tokens.Pairwise fun s t => s.stop ≤ t.stop

/-- A character that does not separate begins a word, which goes up to the next separator. -/
theorem word_append_behind {p : Char → Bool} {c : Char} (h : ¬ p c = true) (rest : List Char) :
    c :: rest = (c :: rest.takeWhile (!p ·)) ++ rest.dropWhile (!p ·) ∧
      (∀ a ∈ c :: rest.takeWhile (!p ·), p a = false) ∧
      ∀ a, (rest.dropWhile (!p ·)).head? = some a → p a = true := by
  refine ⟨?_, ?_, ?_⟩
  · rw [List.cons_append, List.takeWhile_append_dropWhile]
  · refine List.forall_mem_cons.2 ⟨Bool.eq_false_iff.2 h, ?_⟩
    intro a ha
    simpa using List.all_eq_true.1 List.all_takeWhile a ha
  · intro a ha
    have hhead := List.head?_dropWhile_not (!p ·) rest
    rw [ha] at hhead
    simpa using hhead

/-- No token starts before the text does, and none runs backwards. -/
theorem start_of_mem_tokensFrom {p : Char → Bool} {offset : Nat} {cs : List Char} {t : Token}
    (h : t ∈ tokensFrom p offset cs) : offset ≤ t.start ∧ t.start ≤ t.stop := by
  fun_induction tokensFrom p offset cs with
  | case1 => exact nomatch h
  | case2 offset c rest hsep ih =>
    obtain ⟨hstart, hstop⟩ := ih h
    exact ⟨by omega, hstop⟩
  | case3 offset c rest hsep word ih =>
    obtain rfl | hrest := List.mem_cons.1 h
    · exact ⟨Nat.le_refl _, Nat.le_add_right _ _⟩
    · obtain ⟨hstart, hstop⟩ := ih hrest
      exact ⟨by omega, hstop⟩

/-- A token ends before the next one begins. -/
theorem pairwise_tokensFrom (p : Char → Bool) (offset : Nat) (cs : List Char) :
    (tokensFrom p offset cs).Pairwise fun s t => s.stop ≤ t.start := by
  fun_induction tokensFrom p offset cs with
  | case1 => exact List.Pairwise.nil
  | case2 offset c rest hsep ih => exact ih
  | case3 offset c rest hsep word ih =>
    refine List.Pairwise.cons ?_ ih
    -- the later tokens come from the text behind this word
    intro t ht
    have hstop : (Token.startingAt offset (String.ofList word)).stop = offset + word.length := by
      simp [Token.startingAt]
    rw [hstop]
    exact (start_of_mem_tokensFrom ht).1

theorem pairwise_tokenize (text : String) (extra : List Char) :
    (tokenize text extra).Pairwise fun s t => s.stop ≤ t.start := by
  rw [tokenize_eq_tokensFrom]
  exact pairwise_tokensFrom (isSeparator extra) 0 text.toList

/-- The tokens of a text are in order. -/
theorem inOrder_tokenize (text : String) (extra : List Char) : InOrder (tokenize text extra) := by
  have hchain := pairwise_tokenize text extra
  have hforward : ∀ t ∈ tokenize text extra, t.start ≤ t.stop := by
    intro t ht
    rw [tokenize_eq_tokensFrom] at ht
    exact (start_of_mem_tokensFrom ht).2
  constructor
  · refine hchain.imp_of_mem ?_
    intro s t hs _ hle
    exact Nat.le_trans (hforward s hs) hle
  · refine hchain.imp_of_mem ?_
    intro s t _ ht hle
    exact Nat.le_trans hle (hforward t ht)

end TargetEncoding
