import TargetEncoding.Encoder.Entity
import TargetEncoding.Proofs.Alignment
import TargetEncoding.Proofs.ForStd
import TargetEncoding.Proofs.Single
import TargetEncoding.Proofs.TagTable

/-!
# Encoded entities are read back

The features of an utterance hold one number for each token.  Reading the numbers back and decoding
them gives the tags of the message that the interpreter answered, except that the entities unknown
to the domain are no entities any more.  Tags that are stored on that message play no part.

## Key results

- `EntityEncoder.setup_ok`: what an encoder holds once it is set up
- `EntityEncoder.encode_of_answer`: the features of an utterance that is not skipped
- `TagTable.Numbers.decode_map_idForTag`: numbering and decoding keeps the known tags
- `EntityEncoder.encode_decodes`: from the utterance to the features and back
-/

namespace TargetEncoding

/-- The tags that a message has by its own tokens and mentions. -/
def Message.computedTags (m : Message) (boundaries : Bool) : List String :=
  if boundaries then boundaryTags m.tokens.text m.mentions
  else entityLabels m.tokens.text m.mentions

/-- The tag of a token of a span. -/
def Span.tag (boundaries : Bool) (s : Span) (i : Nat) : String :=
  if boundaries then s.boundaryTag i else s.mention.entity

theorem computedTags_eq_map (m : Message) (boundaries : Bool) :
    m.computedTags boundaries =
      (List.range m.tokens.text.length).map fun i =>
        (owner? (keptSpans m.tokens.text m.mentions) i).elim noEntity (·.tag boundaries i) := by
  cases boundaries with
  | false => exact entityLabels_eq_map m.tokens.text m.mentions
  | true => exact boundaryTags_eq_map m.tokens.text m.mentions

/-! ## Numbering and decoding -/

namespace TagTable

/-- Numbering tags and decoding the numbers gives the tags that the table knows. -/
theorem Numbers.decode_map_idForTag {table : TagTable} {tags : List String}
    (h : table.Numbers tags) (hzero : tags[0]? = some noEntity) (given : List String) :
    table.decode (given.map table.idForTag) =
      given.map fun tag => if tag ∈ tags then tag else noEntity := by
  rw [decode, List.map_map]
  apply List.map_congr_left
  intro tag _
  exact h.tagForId_idForTag hzero tag

end TagTable

/-- The tag of a span is among the known ones if the entity is; if it is not, replacing the tag by
the label for none makes no difference to an entity of that name. -/
theorem ite_tag_mem_tagsOf (boundaries : Bool) (entities : List String) (s : Span) (i : Nat) :
    (if s.tag boundaries i ∈ tagsOf boundaries entities then s.tag boundaries i else noEntity) =
      if s.mention.entity ∈ entities then s.tag boundaries i else noEntity := by
  cases boundaries with
  | true =>
    have hiff : s.tag true i ∈ tagsOf true entities ↔ s.mention.entity ∈ entities :=
      tag_mem_tagsOf_iff
    simp only [hiff]
  | false =>
    have htag : s.tag false i = s.mention.entity := rfl
    rw [htag]
    by_cases hnone : s.mention.entity = noEntity
    · rw [hnone, ite_self, ite_self]
    · simp only [mem_tagsOf_false_iff, hnone, false_or]

/-! ## Packing -/

/-- Small ids survive being packed. -/
theorem Feature.tagIds?_ofTagIds_of_le {ids : List Nat} (hsmall : ∀ id ∈ ids, id ≤ 2 ^ 24) :
    (ofTagIds ids).tagIds? = some ids := by
  rw [tagIds?_ofTagIds, Option.some.injEq]
  have hmap : ids.map (fun n => (Single.ofNat n).toIndex) = ids.map id :=
    List.map_congr_left fun n hn => Single.toIndex_ofNat_of_le (hsmall n hn)
  rw [hmap, List.map_id]

namespace EntityEncoder

/-! ## Setting up and encoding -/

section Setup

variable {e e' : EntityEncoder} {d : Domain} {error : SetupError} {table : TagTable}

theorem run_configure (e : EntityEncoder) (d : Domain) (s : StateEncoder) :
    (Encoder.configure d s).run e =
      ((liftM (TagTable.ofEntities d.entityNames e.boundaries) : SetupM EntityEncoder TagTable) >>=
        fun table => modify ({ · with config := some ⟨table, some s⟩ })).run e := rfl

/-- An encoder takes over the table of the domain, if there is one, along with the state encoder. -/
theorem configure_eq_ok_iff {s : StateEncoder} :
    (Encoder.configure d s).run e = .ok () e' ↔
      ∃ table, TagTable.ofEntities d.entityNames e.boundaries = .ok table ∧
        e' = ⟨e.boundaries, some ⟨table, some s⟩⟩ := by
  rw [run_configure]
  cases TagTable.ofEntities d.entityNames e.boundaries with
  | error error => exact iff_of_false nofun fun ⟨_, h, _⟩ => nomatch h
  | ok table =>
    constructor
    · intro h
      exact ⟨table, rfl, (EStateM.Result.ok.inj h).2.symm⟩
    · rintro ⟨_, htable, rfl⟩
      cases htable
      rfl

/-- If there is none, the encoder keeps what it holds. -/
theorem configure_eq_error_iff {s : StateEncoder} :
    (Encoder.configure d s).run e = .error error e' ↔
      TagTable.ofEntities d.entityNames e.boundaries = .error error ∧ e' = e := by
  rw [run_configure]
  cases TagTable.ofEntities d.entityNames e.boundaries with
  | error error' =>
    show EStateM.Result.error error' e = _ ↔ _
    simp [eq_comm]
  | ok table => exact iff_of_false nofun fun ⟨h, _⟩ => nomatch h

/-- An encoder that has been set up holds the table of the domain and the state encoder. -/
theorem setup_ok {s : StateEncoder} (h : (Encoder.setup d s).run e = .ok () e') :
    ∃ table, TagTable.ofEntities d.entityNames e.boundaries = .ok table ∧
      e' = ⟨e.boundaries, some ⟨table, some s⟩⟩ :=
  configure_eq_ok_iff.1 (Encoder.configure_of_setup h)

end Setup

/-- The features of an utterance that gets past everything that makes the encoder skip it. -/
theorem encode_of_answer {e : EntityEncoder} {c : Config} {u : Utterance}
    {supplied : Option Interpreter} {interpreter : Interpreter} {m : Message}
    (hconfig : e.config = some c) (hsaid : u.isEmpty = false) (htags : 2 ≤ c.table.numTags)
    (hresolved : c.resolve supplied = some interpreter)
    (hanswer : interpreter (.ofUtterance u) = .ok (some m)) (htokens : m.tokens.text ≠ []) :
    e.encode u supplied =
      .ok (group ((m.computedTags e.boundaries).map c.table.idForTag)) := by
  have hskip : (u.isEmpty || decide (c.table.numTags < 2)) = false := by
    rw [hsaid, Bool.false_or, decide_eq_false_iff_not]
    omega
  have hids : (if e.boundaries then m.applyBoundaryTags else m).tagIds c.table e.boundaries =
      (m.computedTags e.boundaries).map c.table.idForTag := by
    -- boundary tags are stored anew, so those stored before are not read
    cases e.boundaries <;> rfl
  have htokens' : m.tokens.text.isEmpty = false := by
    rw [List.isEmpty_eq_false_iff]
    exact htokens
  simp only [encode, hconfig, hskip, hresolved, hanswer, Bool.false_eq_true, if_false]
  show Except.ok (encodeAnswer e.boundaries c.table (some m)) = _
  simp only [encodeAnswer, htokens', hids, Bool.false_eq_true, if_false]

/-- What an encoder that was set up from a domain makes of an utterance is one feature with a number
for each token of the answer of the interpreter.  Unpacked and decoded, the numbers are the tags
that follow from the tokens and mentions of that answer, with every entity unknown to the domain
turned into none. -/
theorem encode_decodes {e e' : EntityEncoder} {d : Domain} {s : StateEncoder}
    (hsetup : (Encoder.setup d s).run e = .ok () e') {table : TagTable}
    (htable : e'.table? = some table)
    (hsize : table.numTags ≤ 2 ^ 24 + 1) {u : Utterance} {supplied : Option Interpreter}
    {interpreter : Interpreter} {m : Message} (hsaid : u.isEmpty = false)
    (htags : 2 ≤ table.numTags) (hresolved : s.resolve supplied = some interpreter)
    (hanswer : interpreter (.ofUtterance u) = .ok (some m)) (htokens : m.tokens.text ≠ []) :
    ∃ feature ids,
      e'.encode u supplied = .ok ((∅ : FeatureGroups).insert "entity_tags" [feature]) ∧
      feature.kind = .ids ∧ feature.matrix.shape = (m.tokens.text.length, 1) ∧
      feature.tagIds? = some ids ∧
      (table.decode ids).length = m.tokens.text.length ∧
      ∀ i < m.tokens.text.length, (table.decode ids)[i]? =
        match owner? (keptSpans m.tokens.text m.mentions) i with
        | some span =>
          if span.mention.entity ∈ d.entityStates then
            (if e.boundaries then boundaryTags m.tokens.text m.mentions
              else entityLabels m.tokens.text m.mentions)[i]?
          else some noEntity
        | none => some noEntity := by
  -- the table in use is that of the domain
  obtain ⟨table', hok, rfl⟩ := setup_ok hsetup
  obtain rfl : table' = table := Option.some.inj htable
  have hnum := TagTable.numbers_of_ofEntities hok
  have hencode := encode_of_answer (e := ⟨e.boundaries, some ⟨table', some s⟩⟩) rfl hsaid htags
    hresolved hanswer htokens
  have hlen : (m.computedTags e.boundaries).length = m.tokens.text.length := by
    rw [computedTags_eq_map, List.length_map, List.length_range]
  -- every number is small enough to be packed without loss
  have hsmall : ∀ id ∈ (m.computedTags e.boundaries).map table'.idForTag, id ≤ 2 ^ 24 := by
    intro id hid
    obtain ⟨tag, _, rfl⟩ := List.mem_map.1 hid
    have := hnum.idForTag_lt rfl tag
    omega
  refine ⟨_, _, hencode, rfl, ?_, Feature.tagIds?_ofTagIds_of_le hsmall, ?_, ?_⟩
  · simp [Feature.ofTagIds, Matrix.shape, hlen]
  · rw [TagTable.decode, List.length_map, List.length_map, hlen]
  -- both sides by the owner of the token
  intro i hi
  change _ = match owner? (keptSpans m.tokens.text m.mentions) i with
    | some span =>
      if span.mention.entity ∈ d.entityNames.toList then (m.computedTags e.boundaries)[i]?
      else some noEntity
    | none => some noEntity
  rw [hnum.decode_map_idForTag rfl, List.getElem?_map, computedTags_eq_map, List.getElem?_map,
    List.getElem?_range hi, Option.map_some, Option.map_some]
  cases owner? (keptSpans m.tokens.text m.mentions) i with
  | none =>
    -- the tag of a token without an owner is the label for none, known or not
    exact congrArg some (ite_self noEntity)
  | some span =>
    rw [Option.elim_some, ite_tag_mem_tagsOf, apply_ite some]

/-- A message of three tokens: a mention covers the second, and one of an unknown entity the third.
The tags that are stored on it are of another text. -/
private def staleMessage : Message :=
  { Message.empty with
    tokens := ⟨[⟨"to", 0, 2⟩, ⟨"paris", 3, 8⟩, ⟨"today", 9, 14⟩], [], []⟩
    mentions := [⟨3, 8, "paris", "city", none, none⟩, ⟨9, 14, "today", "B-city", none, none⟩]
    storedTags := some ["B-city", "L-city"] }

/-- A state encoder without an interpreter. -/
private def noDefault : StateEncoder := ⟨true, id, fun _ _ => .ok ∅⟩

/-- Stored tags play no part, and the entity that is called like a tag is none. -/
theorem encode_decodes_staleMessage :
    let table := TagTable.ofNumbered (numberedTags true ["city"])
    let e : EntityEncoder := ⟨true, some ⟨table, some noDefault⟩⟩
    ∃ feature ids,
      e.encode ⟨"to paris today", []⟩ (some fun _ => .ok (some staleMessage)) =
        .ok ((∅ : FeatureGroups).insert "entity_tags" [feature]) ∧
      feature.tagIds? = some ids ∧
      table.decode ids = ["no entity", "U-city", "no entity"] := by
  intro table e
  have hsetup : (Encoder.setup (.ofLists [] [] ["city"]) noDefault).run (unconfigured true) =
      .ok () e := rfl
  have htable : e.table? = some table := rfl
  have hsaid : (⟨"to paris today", []⟩ : Utterance).isEmpty = false := by decide
  have hresolved : noDefault.resolve (some fun _ => .ok (some staleMessage)) =
      some fun _ => .ok (some staleMessage) := rfl
  obtain ⟨feature, ids, hencode, _, _, hids, hlen, htags⟩ :=
    encode_decodes hsetup htable (by decide) hsaid (by decide) hresolved rfl (by decide)
  refine ⟨feature, ids, hencode, hids, List.ext_getElem hlen ?_⟩
  intro i hi hi'
  have htag := htags i (hlen ▸ hi)
  rw [List.getElem?_eq_getElem hi] at htag
  apply Option.some.inj
  rw [htag]
  match i, hi' with
  | 0, _ => rfl
  | 1, _ => rfl
  | 2, _ => rfl

end EntityEncoder

end TargetEncoding
