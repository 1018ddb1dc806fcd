import TargetEncoding.Proofs.EntityEncoding
import TargetEncoding.Proofs.TagTableExport
import TargetEncoding.StateEncoder.Fallback

/-!
# Training and inference agree

For inference an entity encoder is rebuilt over the exported table of the one that was trained with.
It has no state encoder, and what it makes of an utterance depends on the state encoder only through
the interpreter that is found.  So the two can only differ where an interpreter has to be found and
the default one of the state encoder is all there is.

## Key results

- `EntityEncoder.encode_eq_of_resolve_eq`: encoders with the same table and interpreter agree
- `EntityEncoder.encode_eq_missingInterpreter_iff`: when an interpreter is missing
- `EntityEncoder.encode_rebuilt`: the encoder over the exported table, against the one trained with
-/

namespace TargetEncoding

/-- A table of a vocabulary whose tags can be counted by a machine word can be exported. -/
theorem TagTable.Numbers.fitsWords {table : TagTable} {tags : List String}
    (h : table.Numbers tags) (hcount : table.numTags < indexLimit) : table.FitsWords where
  ids := by
    intro tag id hid
    obtain ⟨hlt, _⟩ := List.getElem?_eq_some_iff.1 ((h.idOf_iff tag id).1 hid)
    rw [← h.numTags_eq] at hlt
    omega
  places := by
    intro id hid
    have hlt := h.mem_tagOf_iff.1 hid
    omega
  count := hcount

/-- There is nothing to encode: nothing is said, or there are fewer than two tags to choose from. -/
def TagTable.Skips (table : TagTable) (u : Utterance) : Prop :=
  u.isEmpty = true ∨ table.numTags < 2

instance (table : TagTable) (u : Utterance) : Decidable (table.Skips u) :=
  inferInstanceAs (Decidable (_ ∨ _))

theorem TagTable.not_skips_iff {table : TagTable} {u : Utterance} :
    ¬ table.Skips u ↔ u.isEmpty = false ∧ 2 ≤ table.numTags := by
  rw [Skips, not_or, Bool.not_eq_true, Nat.not_lt]

namespace EntityEncoder

variable {boundaries : Bool} {c c' : Config} {u : Utterance} {supplied : Option Interpreter}

/-! ## What encoding depends on -/

theorem encode_of_skips (h : c.table.Skips u) :
    encode ⟨boundaries, some c⟩ u supplied = .ok ∅ := by
  apply if_pos
  simpa [TagTable.Skips] using h

/-- What is not skipped is answered by the interpreter that is found. -/
theorem encode_of_not_skips (h : ¬ c.table.Skips u) :
    encode ⟨boundaries, some c⟩ u supplied =
      match c.resolve supplied with
      | none => throw (.setup (.missingInterpreter .entityEncoder))
      | some interpreter => do
        let answer ← interpreter (.ofUtterance u)
        return encodeAnswer boundaries c.table answer := by
  apply if_neg
  simpa [TagTable.Skips] using h

/-- Encoders with the same table agree as far as they find the same interpreter. -/
theorem encode_eq_of_resolve_eq {supplied' : Option Interpreter} (htable : c.table = c'.table)
    (hresolve : c.resolve supplied = c'.resolve supplied') :
    encode ⟨boundaries, some c⟩ u supplied = encode ⟨boundaries, some c'⟩ u supplied' := by
  by_cases hskips : c.table.Skips u
  · rw [encode_of_skips hskips, encode_of_skips (htable ▸ hskips)]
  · rw [encode_of_not_skips hskips, encode_of_not_skips (htable ▸ hskips), htable, hresolve]

/-- An interpreter is missing on what is not skipped, and only if none is found. -/
theorem encode_eq_missingInterpreter_iff :
    encode ⟨boundaries, some c⟩ u supplied =
        .error (.setup (.missingInterpreter .entityEncoder)) ↔
      ¬ c.table.Skips u ∧ c.resolve supplied = none := by
  by_cases hskips : c.table.Skips u
  · rw [encode_of_skips hskips]
    simp [hskips]
  · rw [encode_of_not_skips hskips]
    cases hresolve : c.resolve supplied with
    | none => exact iff_of_true rfl ⟨hskips, rfl⟩
    | some interpreter =>
      -- what the interpreter complains of is another error
      apply iff_of_false
      · cases hanswer : interpreter (.ofUtterance u) <;> simp only [hanswer] <;> exact nofun
      · exact fun h => nomatch h.2

/-! ## The encoder over the exported table -/

/-- An encoder that was set up, with a number of tags that is a machine word, can be rebuilt from
the text of its table.  Given an interpreter, which the state encoder uses, the two make the same of
every utterance, failures included.  Given none, they still do if the state encoder has no default
one.  If it has, they do so exactly on the utterances that are skipped, and on all others the
rebuilt encoder complains that there is no interpreter. -/
theorem encode_rebuilt {e e' : EntityEncoder} {d : Domain} {s : StateEncoder}
    (hsetup : (Encoder.setup d s).run e = .ok () e') {table : TagTable}
    (htable : e'.table? = some table)
    (hcount : table.numTags < indexLimit) :
    ∃ table', TagTable.parse table.write = .ok table' ∧
      (s.PrefersSupplied → ∀ u interpreter,
        (ofTable e.boundaries table').encode u (some interpreter) =
          e'.encode u (some interpreter)) ∧
      (s.defaultInterpreter = none → ∀ u,
        (ofTable e.boundaries table').encode u none = e'.encode u none) ∧
      (∀ interpreter, s.defaultInterpreter = some interpreter → ∀ u,
        ((ofTable e.boundaries table').encode u none = e'.encode u none ↔ table.Skips u) ∧
        ((ofTable e.boundaries table').encode u none =
          .error (.setup (.missingInterpreter .entityEncoder)) ↔ ¬ table.Skips u)) := by
  obtain ⟨table₀, hok, rfl⟩ := setup_ok hsetup
  obtain rfl : table₀ = table := Option.some.inj htable
  have hfits := (TagTable.numbers_of_ofEntities hok).fitsWords hcount
  refine ⟨table₀, Json.readText_of_outlines (TagTable.outlines_write hfits), ?_, ?_, ?_⟩
  · intro hprefers u interpreter
    have hresolve : (⟨table₀, none⟩ : Config).resolve (some interpreter) =
        (⟨table₀, some s⟩ : Config).resolve (some interpreter) := (hprefers interpreter).symm
    exact encode_eq_of_resolve_eq rfl hresolve
  · intro hnone u
    have hresolve : (⟨table₀, none⟩ : Config).resolve none =
        (⟨table₀, some s⟩ : Config).resolve none := hnone.symm
    exact encode_eq_of_resolve_eq rfl hresolve
  · intro interpreter hdefault u
    have hmissing : (ofTable e.boundaries table₀).encode u none =
        .error (.setup (.missingInterpreter .entityEncoder)) ↔ ¬ table₀.Skips u := by
      apply encode_eq_missingInterpreter_iff.trans
      exact and_iff_left rfl
    refine ⟨⟨?_, ?_⟩, hmissing⟩
    · intro heq
      by_contra hskips
      -- the trained encoder would lack an interpreter as well
      rw [hmissing.2 hskips] at heq
      have hresolve := (encode_eq_missingInterpreter_iff.1 heq.symm).2
      have hdefault' : s.defaultInterpreter = none := hresolve
      exact nomatch hdefault.symm.trans hdefault'
    · intro hskips
      have htrained :
          (⟨e.boundaries, some ⟨table₀, some s⟩⟩ : EntityEncoder).encode u none = .ok ∅ :=
        encode_of_skips hskips
      rw [htrained]
      exact encode_of_skips hskips

/-- An encoder that was trained with has an interpreter to fall back on.  Supplied with another one,
which finds a token more, it does what the rebuilt one does.  With none supplied, what is said is
encoded when training and not when rebuilt; where nothing is said, it does not matter. -/
theorem encode_rebuilt_withDefault :
    let table := TagTable.ofNumbered (numberedTags true ["city"])
    let read (tokens : List Token) : Interpreter := fun m => .ok (some (m.setTokens .text tokens))
    let words : List Token := [⟨"to", 0, 2⟩, ⟨"paris", 3, 8⟩]
    let all : List Token := words ++ [⟨"!", 8, 9⟩]
    let s := (FallbackEncoder.empty.withDefault (read words)).toStateEncoder
    let e : EntityEncoder := ⟨true, some ⟨table, some s⟩⟩
    let said : Utterance := ⟨"to paris!", [⟨3, 8, "paris", "city", none, none⟩]⟩
    s.PrefersSupplied ∧ ∃ table', TagTable.parse table.write = .ok table' ∧
      (ofTable true table').encode said (some (read all)) = .ok (group [0, 4, 0]) ∧
      e.encode said (some (read all)) = .ok (group [0, 4, 0]) ∧
      e.encode said none = .ok (group [0, 4]) ∧
      (ofTable true table').encode said none =
        .error (.setup (.missingInterpreter .entityEncoder)) ∧
      (ofTable true table').encode ⟨"", []⟩ none = e.encode ⟨"", []⟩ none := by
  intro table read words all s e said
  have hprefers : s.PrefersSupplied := FallbackEncoder.prefersSupplied_toStateEncoder _
  have hsetup : (Encoder.setup (.ofLists [] [] ["city"]) s).run (unconfigured true) =
      .ok () e := rfl
  have htable : e.table? = some table := rfl
  obtain ⟨table', hparse, hsupplied, _, hnone⟩ := encode_rebuilt hsetup htable (by decide)
  -- what is read decides the tags, and the tags decide the group
  have htags (tokens : List Token) (htokens : tokens ≠ []) {supplied : Option Interpreter}
      (hfound : s.resolve supplied = some (read tokens)) {ids : List Nat}
      (hids : (((Message.ofUtterance said).setTokens .text tokens).computedTags true).map
        table.idForTag = ids) : e.encode said supplied = .ok (group ids) := by
    have hanswer : read tokens (.ofUtterance said) =
        .ok (some ((Message.ofUtterance said).setTokens .text tokens)) := rfl
    have hsaid : said.isEmpty = false := rfl
    rw [← hids]
    exact encode_of_answer (e := e) (c := ⟨table, some s⟩) rfl hsaid (by decide) hfound hanswer
      htokens
  have htrained : e.encode said (some (read all)) = .ok (group [0, 4, 0]) :=
    htags all (List.cons_ne_nil _ _) rfl (by decide +kernel)
  have halone : e.encode said none = .ok (group [0, 4]) :=
    htags words (List.cons_ne_nil _ _) rfl (by decide +kernel)
  have hrebuilt := hsupplied hprefers said (read all)
  have hsaid := (hnone _ rfl said).2
  have hsilent := (hnone _ rfl ⟨"", []⟩).1
  exact ⟨hprefers, table', hparse, hrebuilt.trans htrained, htrained, halone, hsaid.2 (by decide),
    hsilent.2 (by decide)⟩

end EntityEncoder

end TargetEncoding
