import TargetEncoding.Proofs.JsonRecord
import TargetEncoding.TagTable.Json

/-!
# Exported tag tables

A tag table is written after training and read again for inference.  Nothing is asked of the table
but that its numbers are machine words: names and tags may hold any characters, the two directions
need not fit together, and the number of tags need not be that of the tags that are listed.

## Key results

- `TagTable.outlines_write`: the text of a table, in any surrounding
- `TagTable.parse_write`: a written table is parsed as itself
-/

namespace TargetEncoding

open Json

namespace Json.StringLiteral

/-- The content of a written literal, with its closing quote. -/
def writeContent (s : String) : List Char := s.toList.flatMap writeChar ++ ['"']

theorem read_writeContent (s : String) (rest : List Char) :
    read (writeContent s ++ rest) = .ok (s.toList, rest) := by
  rw [writeContent, List.append_assoc]
  exact read_flatMap_writeChar s.toList rest

theorem pass_writeContent (s : String) (rest : List Char) :
    pass (writeContent s ++ rest) = .ok rest :=
  pass_of_read (read_writeContent s rest)

theorem outlines_write (s : String) : Outlines (write s) fun o => readString o = .ok s := by
  have h := outlines_literal (read_writeContent s)
  rwa [String.ofList_toList] at h

/-- A decimal digit is written as it is. -/
theorem writeChar_of_isDigit {c : Char} (hc : c.isDigit = true) :
    writeChar c = [c] := by
  have hlarge : 48 ≤ c.toNat := by
    rw [Char.isDigit, Bool.and_eq_true, decide_eq_true_eq] at hc
    exact UInt32.le_iff_toNat_le.1 hc.1
  have hcontrol : isControl c = false := by
    rw [Bool.eq_false_iff, ne_eq, isControl_iff]
    omega
  have hne : ∀ d : Char, d.isDigit = false → ¬ c = d := fun _ => ne_of_isDigit hc
  rw [writeChar, hcontrol]
  simp [hne]

theorem writeContent_decimal (n : Nat) :
    writeContent (decimal n) = decimalDigits n ++ ['"'] := by
  have hdigits : (decimalDigits n).flatMap writeChar = decimalDigits n := by
    calc (decimalDigits n).flatMap writeChar
      _ = (decimalDigits n).flatMap fun c => [c] :=
        List.flatMap_congr fun c hc => writeChar_of_isDigit (isDigit_of_mem_decimalDigits hc)
      _ = decimalDigits n := List.flatMap_singleton' _
  rw [writeContent, decimal, String.toList_ofList, hdigits]

end Json.StringLiteral

namespace TagTable

theorem writeMember_eq (key : String) (text : List Char) :
    writeMember key text = '"' :: StringLiteral.writeContent key ++ ':' :: text := rfl

/-- A written member has its key, and the value that its text stands for. -/
theorem outlinesMember_writeMember (key : String) {text : List Char} {P : Outline → Prop}
    (h : Outlines text P) :
    OutlinesMember (writeMember key text) fun m => readTextKey m.1 = .ok key ∧ P m.2 := by
  rw [writeMember_eq]
  apply outlinesMember (K := fun source => readTextKey source = .ok key)
    (StringLiteral.pass_writeContent key) _ h
  intro rest
  have hread := readTextKey_eq (StringLiteral.read_writeContent key rest)
  rwa [String.ofList_toList] at hread

/-- A written member whose key is an index has that index as its key. -/
theorem outlinesMember_writeMember_decimal {n : Nat} (hn : n < indexLimit) {text : List Char}
    {P : Outline → Prop} (h : Outlines text P) :
    OutlinesMember (writeMember (decimal n) text) fun m =>
      readIndexKey m.1 = .ok n ∧ P m.2 := by
  rw [writeMember_eq]
  apply outlinesMember (K := fun source => readIndexKey source = .ok n)
    (StringLiteral.pass_writeContent (decimal n)) _ h
  intro rest
  rw [StringLiteral.writeContent_decimal, List.append_assoc]
  exact readIndexKey_decimalDigits hn rest

/-- The numbers of the table are machine words. -/
structure FitsWords (t : TagTable) : Prop where
  ids : ∀ (tag : String) (id : Nat), t.idOf[tag]? = some id → id < indexLimit
  places : ∀ id ∈ t.tagOf, id < indexLimit
  count : t.numTags < indexLimit

variable {t : TagTable}

/-- The text of the numbers of the tags. -/
theorem outlines_idOf (h : t.FitsWords) :
    Outlines (writeObject (t.idOf.toList.map fun (tag, id) => writeMember tag (decimalDigits id)))
      fun o => readIdOf o = .ok t.idOf := by
  have hmembers : ∀ e ∈ t.idOf.toList, OutlinesMember (writeMember e.1 (decimalDigits e.2))
      fun m => readTextKey m.1 = .ok e.1 ∧ readIndex m.2 = .ok e.2 := by
    intro e he
    have hid := h.ids e.1 e.2 (Std.ExtTreeMap.mem_toList_iff_getElem?_eq_some.1 he)
    exact outlinesMember_writeMember e.1 (outlines_decimalDigits hid)
  apply (outlines_map hmembers).imp
  intro o ho
  rw [readIdOf, ho]
  exact congrArg _ (Std.ExtTreeMap.ofList_toList t.idOf)

/-- The text of the tags of the numbers. -/
theorem outlines_tagOf (h : t.FitsWords) :
    Outlines (writeObject
      (t.tagOf.toList.map fun (id, tag) => writeMember (decimal id) (StringLiteral.write tag)))
      fun o => readTagOf o = .ok t.tagOf := by
  have hmembers : ∀ e ∈ t.tagOf.toList,
      OutlinesMember (writeMember (decimal e.1) (StringLiteral.write e.2))
        fun m => readIndexKey m.1 = .ok e.1 ∧ readString m.2 = .ok e.2 := by
    intro e he
    have hid : e.1 < indexLimit := by
      apply h.places
      rw [Std.ExtTreeMap.mem_iff_isSome_getElem?,
        Std.ExtTreeMap.mem_toList_iff_getElem?_eq_some.1 he]
      rfl
    exact outlinesMember_writeMember_decimal hid (StringLiteral.outlines_write e.2)
  apply (outlines_map hmembers).imp
  intro o ho
  rw [readTagOf, ho]
  exact congrArg _ (Std.ExtTreeMap.ofList_toList t.tagOf)

/-- The values of the fields of the record. -/
def fieldValues (t : TagTable) : Values record.fields := (t.name, t.idOf, t.tagOf, t.numTags, ())

/-- The text of a table stands for it wherever it is written. -/
theorem outlines_write (h : t.FitsWords) :
    Outlines t.write.toList fun o => record.read o = .ok t := by
  have hnodup : (record.fields.map Field.name).Nodup := by decide
  have hname := outlinesMember_writeMember "tag_name" (StringLiteral.outlines_write t.name)
  have hidOf := outlinesMember_writeMember "tags_to_ids" (outlines_idOf h)
  have htagOf := outlinesMember_writeMember "ids_to_tags" (outlines_tagOf h)
  have hnumTags := outlinesMember_writeMember "num_tags" (outlines_decimalDigits h.count)
  have hgiven : ∀ members,
      List.Forall₂ Answers (Values.described record.fields t.fieldValues) members →
        Values.Given record.fields t.fieldValues members :=
    fun _ => Values.given_of_described hnodup
  rw [write, String.toList_ofList]
  exact Record.outlines hnodup
    (.cons hname (.cons hidOf (.cons htagOf (.cons hnumTags .nil)))) hgiven

/-- A table is exported without loss: its text is parsed as the same table, for any name, tags and
numbers. -/
theorem parse_write (h : t.FitsWords) : parse t.write = .ok t :=
  readText_of_outlines (outlines_write h)

/-- A table whose directions do not fit together, with texts that are escaped and the largest
numbers that there are. -/
def oddTable : TagTable where
  name := "\"tag\"\n"
  idOf := .ofList [("a\\b\x01", largestIndex), ("", 7), ("é\t\u2028", 7)]
  tagOf := .ofList [(0, "\x1f/\r"), (largestIndex, "\x7f😀")]
  numTags := largestIndex

theorem parse_write_oddTable : oddTable.FitsWords ∧ parse oddTable.write = .ok oddTable := by
  have hfits : oddTable.FitsWords := by
    constructor
    · intro tag id hid
      have hmem := (Std.ExtTreeMap.getElem?_ofList_iff (by decide)).1 hid
      simp only [List.mem_cons, List.not_mem_nil, Prod.mk.injEq, or_false] at hmem
      rcases hmem with ⟨_, rfl⟩ | ⟨_, rfl⟩ | ⟨_, rfl⟩ <;> decide
    · intro id hid
      have hmem : id = 0 ∨ id = largestIndex := by simpa using Std.ExtTreeMap.mem_ofList.1 hid
      rcases hmem with rfl | rfl <;> decide
    · exact largestIndex_lt
  exact ⟨hfits, parse_write hfits⟩

end TagTable

end TargetEncoding
