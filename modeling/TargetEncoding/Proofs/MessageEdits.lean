import TargetEncoding.Proofs.Interpretation
import TargetEncoding.TagTable

/-!
# Messages that are changed

Callers replace the texts and tokens of a message, add features, store tags, and have it read by an
interpreter, in any order.  No change touches the mentions, and only two kinds touch the stored
tags: so tags that were computed for some tokens stay when those tokens are replaced, and the
message then has as many numbers as it had tokens back then.

## Key results

- `Message.edits_keep`: what every single change keeps is kept by all of them
- `Message.tagIds_of_edits`: which tags are numbered after any changes
- `Message.not_one_tagId_per_token`: there need not be one number for each token
-/

namespace TargetEncoding

/-! ## Changes -/

/-- A change that is made to a message. -/
inductive MessageEdit where
  | setText (attr : Attribute) (text : String)
  | setTokens (attr : Attribute) (tokens : List Token)
  | addFeature (f : Feature)
  | storeTags (tags : List String)
  | applyBoundaryTags
  | interpret (w : WordInterpreter)

/-- The change replaces the stored tags. -/
def MessageEdit.storesTags : MessageEdit → Bool
  | .storeTags _ => true
  | .applyBoundaryTags => true
  | _ => false

namespace Message

/-- The message after a change.  An interpreter that refuses the message or finds nothing to read
changes nothing. -/
def edit (m : Message) : MessageEdit → Message
  | .setText attr text => m.setText attr text
  | .setTokens attr tokens => m.setTokens attr tokens
  | .addFeature f => m.addFeature f
  | .storeTags tags => m.storeTags tags
  | .applyBoundaryTags => m.applyBoundaryTags
  | .interpret w =>
    match w.interpret m with
    | .ok (some m') => m'
    | _ => m

/-- The message after changes that are made one after the other. -/
def edits (m : Message) (changes : List MessageEdit) : Message :=
  changes.foldl edit m

variable (m : Message)

theorem edits_append (changes more : List MessageEdit) :
    m.edits (changes ++ more) = (m.edits changes).edits more :=
  List.foldl_append ..

theorem edits_cons (change : MessageEdit) (changes : List MessageEdit) :
    m.edits (change :: changes) = (m.edit change).edits changes := rfl

/-- What every single change keeps is kept by all of them. -/
theorem edits_keep {α : Type} (part : Message → α) {changes : List MessageEdit}
    (h : ∀ change ∈ changes, ∀ m : Message, part (m.edit change) = part m) :
    part (m.edits changes) = part m := by
  induction changes generalizing m with
  | nil => rfl
  | cons change changes ih =>
    obtain ⟨hfirst, hlater⟩ := List.forall_mem_cons.1 h
    rw [edits_cons, ih _ hlater, hfirst]

/-- An interpreter changes at most the tokens and features. -/
theorem exists_edit_interpret (w : WordInterpreter) :
    ∃ tokens features,
      m.edit (.interpret w) = { m with tokens := tokens, features := features } := by
  rw [edit]
  split
  · rename_i m' hread
    exact WordInterpreter.exists_interpret hread
  · exact ⟨m.tokens, m.features, rfl⟩

theorem mentions_edit (change : MessageEdit) : (m.edit change).mentions = m.mentions := by
  cases change with
  | interpret w =>
    obtain ⟨tokens, features, hread⟩ := exists_edit_interpret m w
    rw [hread]
  | _ => rfl

/-- No change touches the mentions. -/
theorem mentions_edits (changes : List MessageEdit) : (m.edits changes).mentions = m.mentions :=
  edits_keep m mentions fun change _ m => mentions_edit m change

theorem storedTags_edit {change : MessageEdit} (h : change.storesTags = false) :
    (m.edit change).storedTags = m.storedTags := by
  cases change with
  | storeTags tags => exact nomatch h
  | applyBoundaryTags => exact nomatch h
  | interpret w =>
    obtain ⟨tokens, features, hread⟩ := exists_edit_interpret m w
    rw [hread]
  | _ => rfl

/-- Stored tags stay until others are stored, whatever becomes of the tokens. -/
theorem storedTags_edits {changes : List MessageEdit}
    (h : ∀ change ∈ changes, change.storesTags = false) :
    (m.edits changes).storedTags = m.storedTags :=
  edits_keep m storedTags fun change hchange m => storedTags_edit m (h change hchange)

/-! ## Which tags are numbered -/

variable {m} (table : TagTable)

/-- Plain labels are computed anew each time, so there is one for each token. -/
theorem length_tagIds_plain : (m.tagIds table false).length = m.tokens.text.length := by
  rw [tagIds, tokenTags, if_neg Bool.false_ne_true, List.length_map, length_entityLabels]

theorem tagIds_of_not_stored (h : m.storedTags = none) :
    m.tagIds table true = (boundaryTags m.tokens.text m.mentions).map table.idForTag := by
  rw [tagIds, tokenTags, if_pos rfl, h, Option.getD_none]

theorem tagIds_of_stored {tags : List String} (h : m.storedTags = some tags) :
    m.tagIds table true = tags.map table.idForTag := by
  rw [tagIds, tokenTags, if_pos rfl, h, Option.getD_some]

/-- Boundary tags that are computed are numbered as they were then, until others are stored. -/
theorem tagIds_edits_applyBoundaryTags (before : List MessageEdit) {after : List MessageEdit}
    (hafter : ∀ change ∈ after, change.storesTags = false) :
    (m.edits (before ++ .applyBoundaryTags :: after)).tagIds table true =
      (boundaryTags (m.edits before).tokens.text m.mentions).map table.idForTag := by
  apply tagIds_of_stored
  rw [edits_append, edits_cons, storedTags_edits _ hafter, ← mentions_edits m before]
  rfl

/-- Tags from outside are numbered until others are stored. -/
theorem tagIds_edits_storeTags (before : List MessageEdit) (tags : List String)
    {after : List MessageEdit} (hafter : ∀ change ∈ after, change.storesTags = false) :
    (m.edits (before ++ .storeTags tags :: after)).tagIds table true =
      tags.map table.idForTag := by
  apply tagIds_of_stored
  rw [edits_append, edits_cons, storedTags_edits _ hafter]
  rfl

/-- However the message of an utterance is changed, there is one plain number for each token.  With
boundaries this holds as long as no tags are stored.  If they were last computed from the tokens,
there are as many numbers as there were tokens then, and they are the numbers of the tags of those
tokens; if they were last stored from outside, they are the numbers of these tags. -/
theorem tagIds_of_edits (u : Utterance) (changes : List MessageEdit) :
    let start := ofUtterance u
    let m := start.edits changes
    (m.tagIds table false).length = m.tokens.text.length ∧
      ((∀ change ∈ changes, change.storesTags = false) ∧
          (m.tagIds table true).length = m.tokens.text.length ∨
        (∃ before after, changes = before ++ .applyBoundaryTags :: after ∧
          (∀ change ∈ after, change.storesTags = false) ∧
          m.tagIds table true =
            (boundaryTags (start.edits before).tokens.text u.mentions).map table.idForTag ∧
          ((m.tagIds table true).length = m.tokens.text.length ↔
            (start.edits before).tokens.text.length = m.tokens.text.length)) ∨
        ∃ before tags after, changes = before ++ .storeTags tags :: after ∧
          (∀ change ∈ after, change.storesTags = false) ∧
          m.tagIds table true = tags.map table.idForTag) := by
  intro start m
  refine ⟨length_tagIds_plain table, ?_⟩
  -- the change that stored tags last decides
  obtain hnone | ⟨before, change, after, hchanges, hstores, hafter⟩ :=
    List.forall_or_exists_last MessageEdit.storesTags changes
  · have hstored : m.storedTags = none := storedTags_edits start hnone
    refine .inl ⟨hnone, ?_⟩
    rw [tagIds_of_not_stored table hstored, List.length_map, length_boundaryTags]
  · cases change with
    | applyBoundaryTags =>
      have hids : m.tagIds table true =
          (boundaryTags (start.edits before).tokens.text u.mentions).map table.idForTag := by
        rw [show m = start.edits (before ++ .applyBoundaryTags :: after) by rw [← hchanges]]
        exact tagIds_edits_applyBoundaryTags table before hafter
      refine .inr (.inl ⟨before, after, hchanges, hafter, hids, ?_⟩)
      rw [hids, List.length_map, length_boundaryTags]
    | storeTags tags =>
      refine .inr (.inr ⟨before, tags, after, hchanges, hafter, ?_⟩)
      rw [show m = start.edits (before ++ .storeTags tags :: after) by rw [← hchanges]]
      exact tagIds_edits_storeTags table before tags hafter
    | _ => cases hstores

/-- There is not always one number for each token, even if no tags come from outside: a message that
is read and tagged, and then read again with a longer text, keeps its tags. -/
theorem not_one_tagId_per_token :
    ¬ ∀ (u : Utterance) (changes : List MessageEdit) (table : TagTable) (boundaries : Bool),
      (∀ tags, .storeTags tags ∉ changes) →
      (((ofUtterance u).edits changes).tagIds table boundaries).length =
        ((ofUtterance u).edits changes).tokens.text.length := by
  intro hall
  let u : Utterance := ⟨"to paris", [⟨3, 8, "paris", "city", none, none⟩]⟩
  let changes : List MessageEdit := [.interpret .plain, .applyBoundaryTags,
    .setText .text "to paris today", .interpret .plain]
  let table := TagTable.ofNumbered (numberedTags true ["city"])
  have hlen := hall u changes table true (by simp [changes])
  have htokens : ((ofUtterance u).edits changes).tokens.text =
      [⟨"to", 0, 2⟩, ⟨"paris", 3, 8⟩, ⟨"today", 9, 14⟩] := by decide +kernel
  have hids : ((ofUtterance u).edits changes).tagIds table true = [0, 4] := by decide +kernel
  rw [htokens, hids] at hlen
  cases hlen

end Message

end TargetEncoding
