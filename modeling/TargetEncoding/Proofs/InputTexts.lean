import TargetEncoding.Config.Json
import TargetEncoding.Domain.Json
import TargetEncoding.Proofs.JsonPresentation
import TargetEncoding.Target.Json

/-!
# The texts of inputs

Domains, configurations, targets, utterances and mentions come as JSON.  Each of them is described
here by its slots, apart from how it is read: what its fields are called, in which order they stand
in an array, and which of them may be left out.  However a value is presented, reading gives the
same value, and an object that repeats a field or lacks a required one is never read, at no depth.

## Key results

- `Mention.presents_readBy`, `Utterance.presents_readBy`, `Target.presents_readBy`,
  `Domain.presents_readBy`, `Config.presents_readBy`: presentations are read as what they present
- `inputs_faithful`: whole texts
-/

namespace TargetEncoding

open Json

/-- Parsing with an error of its own is as faithful as reading. -/
theorem Json.Faithful.parseAs {α : Type} {presents : Spelling α} {flawed : List Char → Prop}
    {read : Reader α} (h : Faithful presents flawed (readText read)) :
    Faithful presents flawed (TargetEncoding.parseAs read) := by
  obtain ⟨hpresents, hflawed⟩ := h
  refine ⟨fun a text ha => ?_, fun text ht a ha => ?_⟩
  · rw [TargetEncoding.parseAs, hpresents a text ha]
    rfl
  · rw [TargetEncoding.parseAs] at ha
    cases hread : readText read text with
    | error e =>
      rw [hread] at ha
      cases ha
    | ok b => exact hflawed text ht b hread

/-! ## Mentions -/

namespace Mention

/-- What a mention says. -/
def slots (m : Mention) : List Slot :=
  [.required "start" .index m.start,
   .required "end" .index m.stop,
   .withDefault "value" .string "" m.value,
   .required "entity" .string m.entity,
   .withDefault "role" (.optional .string) none m.role,
   .withDefault "group" (.optional .string) none m.group]

/-- The texts that present a mention. -/
def Presents : Spelling Mention := fun m => Json.Presents m.slots

/-- The texts that repeat a field of a mention or lack one. -/
def Flawed : List Char → Prop :=
  Json.Flawed ["start", "end", "value", "entity", "role", "group"] ["start", "end", "entity"]
    fun _ _ => False

theorem presents_readBy : Presents.ReadBy record.read := by
  intro m text h
  have hname := Spelling.string_readBy.optional (by nofun)
  have hwritten : Values.WrittenBy record.fields
      (m.start, m.stop, m.value, m.entity, m.role, m.group, ()) m.slots :=
    .cons (Slot.required_describes Spelling.index_readBy ..) <|
    .cons (Slot.required_describes Spelling.index_readBy ..) <|
    .cons (Slot.withDefault_describes Spelling.string_readBy ..) <|
    .cons (Slot.required_describes Spelling.string_readBy ..) <|
    .cons (Slot.withDefault_describes hname ..) <|
    .cons (Slot.withDefault_describes hname ..) .nil
  exact record.outlines_presents (by decide) hwritten h

theorem outlines_flawed {text : List Char} (h : Flawed text) :
    Outlines text fun o => o ≠ .null ∧ ∀ m, record.read o ≠ .ok m := by
  refine Record.outlines_flawed (by decide) ?_ (by nofun) h
  simp [record, Field.required, Field.withDefault]

end Mention

/-! ## Utterances -/

namespace Utterance

/-- What an utterance says. -/
def slots (u : Utterance) : List Slot :=
  [.withDefault "text" .string "" u.text,
   .withDefault "entities" (.list Mention.Presents) [] u.mentions]

/-- The texts that present an utterance. -/
def Presents : Spelling Utterance := fun u => Json.Presents u.slots

/-- The texts that repeat a field of an utterance, or have a mention with a flaw. -/
def Flawed : List Char → Prop :=
  Json.Flawed ["text", "entities"] [] fun name text =>
    name = "entities" ∧ FlawedList Mention.Flawed text

theorem presents_readBy : Presents.ReadBy record.read := by
  intro u text h
  have hwritten : Values.WrittenBy record.fields (u.text, u.mentions, ()) u.slots :=
    .cons (Slot.withDefault_describes Spelling.string_readBy ..) <|
    .cons (Slot.withDefault_describes Mention.presents_readBy.list ..) .nil
  exact record.outlines_presents (by decide) hwritten h

theorem outlines_flawed {text : List Char} (h : Flawed text) :
    Outlines text fun o => o ≠ .null ∧ ∀ u, record.read o ≠ .ok u := by
  refine Record.outlines_flawed (by decide) (by nofun) ?_ h
  intro f hf text hbad
  have hmentions : FlawedList Mention.Flawed text →
      Outlines text fun o => ∀ l, readList Mention.record.read o ≠ .ok l :=
    FlawedList.outlines fun _ hm => (Mention.outlines_flawed hm).imp fun _ ho => ho.2
  simp only [record, List.mem_cons, List.not_mem_nil, or_false] at hf
  rcases hf with rfl | rfl
  · exact absurd hbad.1 (by decide)
  · exact hmentions hbad.2

end Utterance

/-! ## Targets -/

namespace Target

/-- What a target says. -/
def slots (t : Target) : List Slot :=
  [.required "action" .string t.action,
   .withDefault "entity_data" (.optional Utterance.Presents) none t.utterance]

/-- The texts that present a target. -/
def Presents : Spelling Target := fun t => Json.Presents t.slots

/-- The texts that repeat a field of a target or lack one, or have an utterance with a flaw. -/
def Flawed : List Char → Prop :=
  Json.Flawed ["action", "entity_data"] ["action"] fun name text =>
    name = "entity_data" ∧ Utterance.Flawed text

theorem presents_readBy : Presents.ReadBy record.read := by
  intro t text h
  have hwritten : Values.WrittenBy record.fields (t.action, t.utterance, ()) t.slots :=
    .cons (Slot.required_describes Spelling.string_readBy ..) <|
    .cons (Slot.withDefault_describes (Utterance.presents_readBy.optional (by nofun)) ..) .nil
  exact record.outlines_presents (by decide) hwritten h

theorem outlines_flawed {text : List Char} (h : Flawed text) :
    Outlines text fun o => o ≠ .null ∧ ∀ t, record.read o ≠ .ok t := by
  refine Record.outlines_flawed (by decide) ?_ ?_ h
  · simp [record, Field.required, Field.withDefault]
  · intro f hf text hbad
    simp only [record, List.mem_cons, List.not_mem_nil, or_false] at hf
    rcases hf with rfl | rfl
    · exact absurd hbad.1 (by decide)
    · exact (Utterance.outlines_flawed hbad.2).imp fun _ ho => readOptional_ne_ok ho.1 ho.2

end Target

/-! ## Configurations -/

namespace Config

/-- What a configuration says. -/
def slots (c : Config) : List Slot :=
  [.withDefault "bilou_tagging" .boolean true c.boundaries,
   .withDefault "featurize_actions" .boolean true c.actions,
   .withDefault "featurize_entities" .boolean true c.entities,
   .withDefault "parallel_threshold" .index 64 c.parallelThreshold]

/-- The texts that present a configuration. -/
def Presents : Spelling Config := fun c => Json.Presents c.slots

/-- The texts that repeat a field of a configuration. -/
def Flawed : List Char → Prop :=
  Json.Flawed ["bilou_tagging", "featurize_actions", "featurize_entities", "parallel_threshold"] []
    fun _ _ => False

theorem presents_readBy : Presents.ReadBy record.read := by
  intro c text h
  have hwritten : Values.WrittenBy record.fields
      (c.boundaries, c.actions, c.entities, c.parallelThreshold, ()) c.slots :=
    .cons (Slot.withDefault_describes Spelling.boolean_readBy ..) <|
    .cons (Slot.withDefault_describes Spelling.boolean_readBy ..) <|
    .cons (Slot.withDefault_describes Spelling.boolean_readBy ..) <|
    .cons (Slot.withDefault_describes Spelling.index_readBy ..) .nil
  exact record.outlines_presents (by decide) hwritten h

theorem outlines_flawed {text : List Char} (h : Flawed text) :
    Outlines text fun o => o ≠ .null ∧ ∀ c, record.read o ≠ .ok c :=
  Record.outlines_flawed (by decide) (by nofun) (by nofun) h

end Config

/-! ## Domains -/

namespace Domain

/-- What a domain says. -/
def slots (d : Domain) : List Slot :=
  [.withDefault "action_names" (.list .string) [] d.actionNames,
   .withDefault "action_texts" (.list .string) [] d.actionTexts,
   .withDefault "entities" (.list .string) [] d.entities,
   .withDefault "roles" (.map (.list .string)) ∅ d.roles,
   .withDefault "groups" (.map (.list .string)) ∅ d.groups]

/-- The texts that present a domain. -/
def Presents : Spelling Domain := fun d => Json.Presents d.slots

/-- The texts that repeat a field of a domain. -/
def Flawed : List Char → Prop :=
  Json.Flawed ["action_names", "action_texts", "entities", "roles", "groups"] [] fun _ _ => False

theorem presents_readBy : Presents.ReadBy record.read := by
  intro d text h
  have hnames := Spelling.string_readBy.list
  have hlabels : (Spelling.map (.list .string)).ReadBy EntityLabels.read := hnames.map
  have hwritten : Values.WrittenBy record.fields
      (d.actionNames, d.actionTexts, d.entities, d.roles, d.groups, ()) d.slots :=
    .cons (Slot.withDefault_describes hnames ..) <|
    .cons (Slot.withDefault_describes hnames ..) <|
    .cons (Slot.withDefault_describes hnames ..) <|
    .cons (Slot.withDefault_describes hlabels ..) <|
    .cons (Slot.withDefault_describes hlabels ..) .nil
  exact record.outlines_presents (by decide) hwritten h

theorem outlines_flawed {text : List Char} (h : Flawed text) :
    Outlines text fun o => o ≠ .null ∧ ∀ d, record.read o ≠ .ok d :=
  Record.outlines_flawed (by decide) (by nofun) (by nofun) h

end Domain

/-! ## Whole texts -/

/-- Whatever text presents an input, it is read as this input, and no text with a flaw is read. -/
theorem inputs_faithful :
    Faithful Domain.Presents Domain.Flawed Domain.parse ∧
      Faithful Config.Presents Config.Flawed Config.parse ∧
      Faithful Target.Presents Target.Flawed (readText Target.record.read) ∧
      Faithful Utterance.Presents Utterance.Flawed (readText Utterance.record.read) ∧
      Faithful Mention.Presents Mention.Flawed (readText Mention.record.read) := by
  refine ⟨?_, ?_, ?_, ?_, ?_⟩
  · exact (Faithful.of_outlines Domain.presents_readBy Domain.outlines_flawed).parseAs
  · exact (Faithful.of_outlines Config.presents_readBy Config.outlines_flawed).parseAs
  · exact .of_outlines Target.presents_readBy Target.outlines_flawed
  · exact .of_outlines Utterance.presents_readBy Utterance.outlines_flawed
  · exact .of_outlines Mention.presents_readBy Mention.outlines_flawed

/-- A target with a mention that has no role and no group. -/
def labelledTarget : Target := ⟨"a", some ⟨"", [⟨0, 1, "", "e", none, none⟩]⟩⟩

/-- The target in an unusual presentation: an unknown member in front, the utterance and its mention
as arrays, the latter without its last fields, and an escape in the action. -/
def labelledTargetText : String :=
  " \x7b\"x\":[\x7b\x7d],\"entity_data\":[\"\",[[0,1,\"\",\"e\"]]],\"action\":\"\\u0061\"\x7d"

/-- An object with two actions. -/
def repeatedActionText : String := "\x7b\"action\":\"a\",\"action\":\"\"\x7d"

theorem inputs_faithful_labelledTarget :
    Target.Presents labelledTarget labelledTargetText.toList ∧
      readText Target.record.read labelledTargetText = .ok labelledTarget ∧
      Target.Flawed repeatedActionText.toList ∧
      ∀ t, readText Target.record.read repeatedActionText ≠ .ok t := by
  have hname : ∀ s : String, s.toList.all (fun c => c ≠ '"' && c ≠ '\\' && 32 ≤ c.toNat) →
      IsName s (s.toList ++ ['"']) := by
    intro s h
    apply LiteralText.plain
    simpa [and_assoc] using h
  have hstring : ∀ s : String, s.toList.all (fun c => c ≠ '"' && c ≠ '\\' && 32 ≤ c.toNat) →
      Spelling.string s ('"' :: (s.toList ++ ['"'])) := fun s h => .of_inner ⟨_, hname s h, rfl⟩
  have hindex : ∀ n < 10, Spelling.index n [digitChar n] := by
    intro n hn
    have hdigits : decimalDigits n = [digitChar n] := by rw [decimalDigits, if_pos hn]
    exact .of_inner ⟨Nat.lt_trans hn (by decide), hdigits.symm⟩
  -- the mention and the utterance are arrays
  have hmention : Mention.Presents ⟨0, 1, "", "e", none, none⟩ "[0,1,\"\",\"e\"]".toList := by
    apply Padded.of_inner
    apply Presentation.array
    · exact .items (List.cons_ne_nil ['0'] [['1'], "\"\"".toList, "\"e\"".toList])
    refine .item (hindex 0 (by decide)) <| .item (hindex 1 (by decide)) <|
      .item (hstring "" rfl) <| .item (hstring "e" rfl) <| .omitted ?_
    simp [Slot.withDefault]
  have hmentions : Spelling.list Mention.Presents [⟨0, 1, "", "e", none, none⟩]
      "[[0,1,\"\",\"e\"]]".toList :=
    .of_inner ⟨[_], .items (List.cons_ne_nil _ []), .cons hmention .nil⟩
  have hutterance : Utterance.Presents ⟨"", [⟨0, 1, "", "e", none, none⟩]⟩
      "[\"\",[[0,1,\"\",\"e\"]]]".toList := by
    apply Padded.of_inner
    apply Presentation.array
    · exact .items (List.cons_ne_nil "\"\"".toList ["[[0,1,\"\",\"e\"]]".toList])
    exact .item (hstring "" rfl) <| .item hmentions <| .omitted (List.forall_mem_nil _)
  have haction : Spelling.string "a" "\"\\u0061\"".toList := by
    have hhex : HexText 'a'.toNat ['0', '0', '6', '1'] :=
      .cons (.inl rfl) <| .cons (.inl rfl) <| .cons (.inl rfl) <| .cons (.inl rfl) .nil
    exact .of_inner ⟨"\\u0061\"".toList, .cons (.unit hhex) .nil, rfl⟩
  -- the target is an object
  have hunknown : IsJson "[\x7b\x7d]".toList := by
    have hempty : IsJson "\x7b\x7d".toList := .object (.empty blanks_nil) (List.forall_mem_nil _)
    exact .array (.items (List.cons_ne_nil "\x7b\x7d".toList [])) (by simpa using hempty)
  have hpresents : Target.Presents labelledTarget labelledTargetText.toList := by
    have hblank : Blanks [' '] := by simp [Blanks]
    have hobject : ObjectText IsName [("x", "[\x7b\x7d]".toList),
        ("entity_data", "[\"\",[[0,1,\"\",\"e\"]]]".toList), ("action", "\"\\u0061\"".toList)]
        labelledTargetText.toList.tail :=
      .members (List.cons_ne_nil _ _) <|
        .cons (.intro blanks_nil (hname "x" rfl) blanks_nil) <|
        .cons (.intro blanks_nil (hname "entity_data" rfl) blanks_nil) <|
        .cons (.intro blanks_nil (hname "action" rfl) blanks_nil) .nil
    have hinner : Presentation labelledTarget.slots labelledTargetText.toList.tail := by
      apply Presentation.object hobject
      · refine List.forall_mem_cons.2 ⟨.inl ⟨_, rfl, haction⟩, ?_⟩
        exact List.forall_mem_cons.2 ⟨.inl ⟨_, rfl, hutterance⟩, List.forall_mem_nil _⟩
      · simpa [Target.slots, Slot.required, Slot.withDefault] using hunknown
    exact .intro hblank hinner blanks_nil
  have hflawed : Target.Flawed repeatedActionText.toList := by
    have hobject : ObjectText IsName [("action", "\"a\"".toList), ("action", "\"\"".toList)]
        repeatedActionText.toList :=
      .members (List.cons_ne_nil _ _) <|
        .cons (.intro blanks_nil (hname "action" rfl) blanks_nil) <|
        .cons (.intro blanks_nil (hname "action" rfl) blanks_nil) .nil
    have ha : IsJson "\"a\"".toList :=
      .string (.cons (.plain (by decide) (by decide) (by decide)) .nil)
    have hempty : IsJson "\"\"".toList := .string .nil
    refine .of_inner (.repeated hobject ?_ List.mem_cons_self (by decide))
    exact List.forall_mem_cons.2 ⟨ha, by simpa using hempty⟩
  obtain ⟨_, _, ⟨hread, hrefuse⟩, _⟩ := inputs_faithful
  exact ⟨hpresents, hread _ _ hpresents, hflawed, hrefuse _ hflawed⟩

end TargetEncoding
