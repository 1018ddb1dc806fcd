import TargetEncoding.Proofs.Setup
import TargetEncoding.Proofs.TagTable

/-!
# What the tag table of a domain depends on

Entities are tagged under their own names and under these names joined with a role or a group.  Only
which names there are counts: not in what order or how often they are listed, not whether a label is
a role or a group, and not in what order the labels of the entities are gone through.

## Key results

- `Domain.mem_entityStates_iff`: the names under which entities are tagged
- `Domain.labels_declareAll_iff`: the labels of a domain that is built call by call
- `Domain.toList_collectNames`: collecting the names, whatever the order of the entries
- `Domain.vocabulary_of_names`: domains with the same names have the same table
-/

namespace TargetEncoding

/-! ## Labels -/

theorem labelledEntity_ne_noEntity (entity label : String) :
    labelledEntity entity label ≠ noEntity := by
  intro heq
  have hmark : '#' ∈ (labelledEntity entity label).toList := by simp [labelledEntity]
  rw [heq] at hmark
  exact absurd hmark (by decide)

namespace EntityLabels

/-- The label is listed for the entity. -/
def Lists (labels : EntityLabels) (entity label : String) : Prop :=
  ∃ own, labels[entity]? = some own ∧ label ∈ own

theorem mem_labelledEntities_iff {labels : EntityLabels} {name : String} :
    name ∈ labels.labelledEntities ↔
      ∃ entity label, labels.Lists entity label ∧ name = labelledEntity entity label := by
  rw [labelledEntities, List.mem_flatMap]
  constructor
  · rintro ⟨⟨entity, own⟩, hentry, hname⟩
    obtain ⟨label, hlabel, rfl⟩ := List.mem_map.1 hname
    have hown := Std.ExtTreeMap.mem_toList_iff_getElem?_eq_some.1 hentry
    exact ⟨entity, label, ⟨own, hown, hlabel⟩, rfl⟩
  · rintro ⟨entity, label, ⟨own, hown, hlabel⟩, rfl⟩
    exact ⟨(entity, own), Std.ExtTreeMap.mem_toList_iff_getElem?_eq_some.2 hown,
      List.mem_map_of_mem hlabel⟩

/-- Labels that are added come on top of those that an entity has. -/
theorem lists_add_iff {labels : EntityLabels} {entity e label : String} {more : List String} :
    (labels.add entity more).Lists e label ↔
      labels.Lists e label ∨ e = entity ∧ label ∈ more := by
  rw [Lists, Lists, add, Std.ExtTreeMap.getElem?_insert, Std.ExtTreeMap.getD_eq_getD_getElem?]
  by_cases he : e = entity
  · subst he
    cases labels[e]? with
    | none => simp
    | some own => simp
  · have hne : compare entity e ≠ .eq := fun h => he (Std.LawfulEqCmp.eq_of_compare h).symm
    simp [hne, he]

end EntityLabels

namespace Domain

variable {d d' : Domain}

/-- The label is one of the entity, as a role or as a group. -/
def Labels (d : Domain) (entity label : String) : Prop :=
  d.roles.Lists entity label ∨ d.groups.Lists entity label

/-- The name joins an entity with one of its labels. -/
def IsLabelled (d : Domain) (name : String) : Prop :=
  ∃ entity label, d.Labels entity label ∧ name = labelledEntity entity label

theorem mem_entityNames_iff {name : String} :
    name ∈ d.entityNames ↔ name ∈ d.entities ∨ d.IsLabelled name := by
  rw [entityNames, Std.ExtTreeSet.mem_ofList, List.contains_iff_mem, List.mem_append,
    List.mem_append, EntityLabels.mem_labelledEntities_iff, EntityLabels.mem_labelledEntities_iff]
  simp only [IsLabelled, Labels, or_and_right, exists_or]

theorem mem_entityStates_iff {name : String} :
    name ∈ d.entityStates ↔ name ∈ d.entities ∨ d.IsLabelled name := by
  rw [entityStates, Std.ExtTreeSet.mem_toList, mem_entityNames_iff]

/-- The names of a domain that are joined with a label never stand for no entity. -/
theorem noEntity_mem_entityNames_iff : noEntity ∈ d.entityNames ↔ noEntity ∈ d.entities := by
  rw [mem_entityNames_iff, or_iff_left]
  rintro ⟨entity, label, _, heq⟩
  exact labelledEntity_ne_noEntity entity label heq.symm

/-- Domains have the same names if they list the same entities and join them to the same names. -/
theorem entityNames_congr (hentities : ∀ name, name ∈ d.entities ↔ name ∈ d'.entities)
    (hlabelled : ∀ name, d.IsLabelled name ↔ d'.IsLabelled name) :
    d.entityNames = d'.entityNames := by
  apply Std.ExtTreeSet.ext_mem
  intro name
  rw [mem_entityNames_iff, mem_entityNames_iff, hentities, hlabelled]

/-! ## Building a domain -/

/-- Labels for an entity, all of them roles or all of them groups. -/
inductive Declaration where
  | roles (entity : String) (labels : List String)
  | groups (entity : String) (labels : List String)

/-- The declaration gives the label to the entity. -/
def Declaration.Gives : Declaration → String → String → Prop
  | .roles entity labels, e, label => e = entity ∧ label ∈ labels
  | .groups entity labels, e, label => e = entity ∧ label ∈ labels

/-- Adds what is declared. -/
def declare (d : Domain) : Declaration → Domain
  | .roles entity labels => d.addRoles entity labels
  | .groups entity labels => d.addGroups entity labels

/-- Adds what is declared, one declaration after the other. -/
def declareAll (d : Domain) (declarations : List Declaration) : Domain :=
  declarations.foldl declare d

theorem entities_declare (x : Declaration) : (d.declare x).entities = d.entities := by
  cases x <;> rfl

theorem labels_declare_iff {x : Declaration} {entity label : String} :
    (d.declare x).Labels entity label ↔ d.Labels entity label ∨ x.Gives entity label := by
  cases x with
  | roles e more =>
    show (d.roles.add e more).Lists entity label ∨ d.groups.Lists entity label ↔ _
    rw [EntityLabels.lists_add_iff]
    exact or_right_comm
  | groups e more =>
    show d.roles.Lists entity label ∨ (d.groups.add e more).Lists entity label ↔ _
    rw [EntityLabels.lists_add_iff]
    exact or_assoc.symm

theorem entities_declareAll (declarations : List Declaration) :
    (d.declareAll declarations).entities = d.entities := by
  induction declarations generalizing d with
  | nil => rfl
  | cons x declarations ih =>
    have hrest := ih (d := d.declare x)
    rwa [entities_declare] at hrest

/-- The labels of a domain that is built call by call are those that it begins with and those that
one of the declarations gives. -/
theorem labels_declareAll_iff {declarations : List Declaration} {entity label : String} :
    (d.declareAll declarations).Labels entity label ↔
      d.Labels entity label ∨ ∃ x ∈ declarations, x.Gives entity label := by
  induction declarations generalizing d with
  | nil => simp [declareAll]
  | cons x declarations ih =>
    have hrest := ih (d := d.declare x)
    rw [labels_declare_iff] at hrest
    rw [List.exists_mem_cons_iff, ← or_assoc]
    exact hrest

/-! ## Going through the entries -/

/-- Adds the names that an entry joins, label by label. -/
def addEntry (names : Std.ExtTreeSet String) (entry : String × List String) :
    Std.ExtTreeSet String :=
  entry.2.foldl (fun names label => names.insert (labelledEntity entry.1 label)) names

/-- Collects the names under which entities are tagged, entry by entry. -/
def collectNames (entities : List String) (entries : List (String × List String)) :
    Std.ExtTreeSet String :=
  entries.foldl addEntry (.ofList entities)

theorem mem_addEntry_iff {names : Std.ExtTreeSet String} {entry : String × List String}
    {name : String} :
    name ∈ addEntry names entry ↔
      name ∈ names ∨ ∃ label ∈ entry.2, name = labelledEntity entry.1 label := by
  obtain ⟨entity, own⟩ := entry
  rw [addEntry]
  induction own generalizing names with
  | nil => simp
  | cons label own ih =>
    rw [List.foldl_cons, ih, Std.ExtTreeSet.mem_insert, Std.LawfulEqCmp.compare_eq_iff_eq,
      List.exists_mem_cons_iff, ← or_assoc, or_comm (a := name ∈ names), eq_comm (a := name)]

theorem mem_foldl_addEntry_iff {entries : List (String × List String)}
    {names : Std.ExtTreeSet String} {name : String} :
    name ∈ entries.foldl addEntry names ↔
      name ∈ names ∨ ∃ entry ∈ entries, ∃ label ∈ entry.2, name = labelledEntity entry.1 label := by
  induction entries generalizing names with
  | nil => simp
  | cons entry entries ih =>
    rw [List.foldl_cons, ih, mem_addEntry_iff, List.exists_mem_cons_iff, or_assoc]

/-- The entries of a map, in any order, join the names that its labels do. -/
theorem exists_entry_iff {labels : EntityLabels} {entries : List (String × List String)}
    (hperm : entries.Perm labels.toList) {name : String} :
    (∃ entry ∈ entries, ∃ label ∈ entry.2, name = labelledEntity entry.1 label) ↔
      ∃ entity label, labels.Lists entity label ∧ name = labelledEntity entity label := by
  simp only [hperm.mem_iff, Prod.exists, Std.ExtTreeMap.mem_toList_iff_getElem?_eq_some]
  constructor
  · rintro ⟨entity, own, hown, label, hlabel, heq⟩
    exact ⟨entity, label, ⟨own, hown, hlabel⟩, heq⟩
  · rintro ⟨entity, label, ⟨own, hown, hlabel⟩, heq⟩
    exact ⟨entity, own, hown, label, hlabel, heq⟩

/-- Collecting the names gives the same whatever the order of the entries. -/
theorem toList_collectNames {roles groups : List (String × List String)}
    (hroles : roles.Perm d.roles.toList) (hgroups : groups.Perm d.groups.toList) :
    (collectNames d.entities (roles ++ groups)).toList = d.entityStates := by
  have hsame : collectNames d.entities (roles ++ groups) = d.entityNames := by
    apply Std.ExtTreeSet.ext_mem
    intro name
    rw [collectNames, List.foldl_append, mem_foldl_addEntry_iff, mem_foldl_addEntry_iff,
      exists_entry_iff hroles, exists_entry_iff hgroups, mem_entityNames_iff,
      Std.ExtTreeSet.mem_ofList, List.contains_iff_mem, or_assoc]
    simp only [IsLabelled, Labels, or_and_right, exists_or]
  rw [hsame, entityStates]

end Domain

/-! ## The table -/

/-- An encoder that is not ready is set up with the table of the domain. -/
theorem EntityEncoder.setup_of_table {e : EntityEncoder} (hunready : Encoder.isReady e = false)
    {d : Domain} {table : TagTable}
    (htable : TagTable.ofEntities d.entityNames e.boundaries = .ok table) (s : StateEncoder) :
    (Encoder.setup d s).run e = .ok () ⟨e.boundaries, some ⟨table, some s⟩⟩ := by
  rw [Encoder.setup_of_unready hunready]
  exact configure_eq_ok_iff.2 ⟨table, htable, rfl⟩

/-- An encoder that is not ready fails to be set up exactly if an entity has the name for none. -/
theorem EntityEncoder.setup_eq_error_iff {e e' : EntityEncoder}
    (hunready : Encoder.isReady e = false) {d : Domain} {s : StateEncoder} {error : SetupError} :
    (Encoder.setup d s).run e = .error error e' ↔
      noEntity ∈ d.entities ∧ error = .reservedEntity noEntity ∧ e' = e := by
  rw [Encoder.setup_of_unready hunready, configure_eq_error_iff,
    ← Domain.noEntity_mem_entityNames_iff]
  by_cases hreserved : noEntity ∈ d.entityNames
  · rw [TagTable.ofEntities_eq_error_iff.2 hreserved]
    simp [hreserved, eq_comm]
  · obtain ⟨table, htable, _⟩ := TagTable.ofEntities_numbers e.boundaries hreserved
    rw [htable]
    simp [hreserved]

/-- What is set up from one domain differs in the state encoder only, and not in the table. -/
theorem EntityEncoder.map_table?_setupCopy {e : EntityEncoder}
    (hunready : Encoder.isReady e = false) (d : Domain) (s : StateEncoder) :
    (Encoder.setupCopy e d s).map (·.table?) =
      (TagTable.ofEntities d.entityNames e.boundaries).map some := by
  rw [Encoder.setupCopy]
  cases htable : TagTable.ofEntities d.entityNames e.boundaries with
  | ok table =>
    rw [setup_of_table hunready htable]
    rfl
  | error error =>
    rw [Encoder.setup_of_unready hunready, configure_eq_error_iff.2 ⟨htable, rfl⟩]
    rfl

/-- The names under which entities are tagged are in ascending order, and are the entities and the
names that join them with a label.  Domains with the same such names get the same table or the same
error, in both modes and with any state encoders.  Which names there are depends neither on the
order of the entries of the labels nor on that of the declarations, nor on whether they declare
roles or groups.  There is no table exactly if an entity that is listed has the name for none; no
label ever makes such a name. -/
theorem Domain.vocabulary_of_names (d : Domain) :
    d.entityStates.Pairwise (· < ·) ∧
    (∀ name, name ∈ d.entityStates ↔ name ∈ d.entities ∨ d.IsLabelled name) ∧
    (∀ d' : Domain, (∀ name, name ∈ d.entities ↔ name ∈ d'.entities) →
      (∀ name, d.IsLabelled name ↔ d'.IsLabelled name) →
      d.entityStates = d'.entityStates ∧
      ∀ (boundaries : Bool) (s s' : StateEncoder),
        (Encoder.setupCopy (EntityEncoder.unconfigured boundaries) d s).map (·.table?) =
          (Encoder.setupCopy (EntityEncoder.unconfigured boundaries) d' s').map (·.table?)) ∧
    (∀ roles groups : List (String × List String), roles.Perm d.roles.toList →
      groups.Perm d.groups.toList →
      (collectNames d.entities (roles ++ groups)).toList = d.entityStates) ∧
    (∀ declarations : List Declaration,
      (d.declareAll declarations).entities = d.entities ∧
      ∀ entity label, (d.declareAll declarations).Labels entity label ↔
        d.Labels entity label ∨ ∃ x ∈ declarations, x.Gives entity label) ∧
    (∀ (boundaries : Bool) (s : StateEncoder) (error : SetupError) (e' : EntityEncoder),
      (Encoder.setup d s).run (.unconfigured boundaries) = .error error e' ↔
        noEntity ∈ d.entities ∧ error = .reservedEntity noEntity ∧
          e' = .unconfigured boundaries) ∧
    ¬ d.IsLabelled noEntity := by
  refine ⟨TagTable.pairwise_lt_toList _, fun _ => mem_entityStates_iff, ?_, ?_, ?_, ?_, ?_⟩
  · intro d' hentities hlabelled
    have hnames := entityNames_congr hentities hlabelled
    refine ⟨by rw [entityStates, entityStates, hnames], ?_⟩
    intro boundaries s s'
    rw [EntityEncoder.map_table?_setupCopy rfl, EntityEncoder.map_table?_setupCopy rfl, hnames]
  · intro roles groups hroles hgroups
    exact toList_collectNames hroles hgroups
  · intro declarations
    exact ⟨entities_declareAll declarations, fun _ _ => labels_declareAll_iff⟩
  · intro boundaries s error e'
    exact EntityEncoder.setup_eq_error_iff rfl
  · rintro ⟨entity, label, _, heq⟩
    exact labelledEntity_ne_noEntity entity label heq.symm

/-- Two domains with different actions, the same entities in another order and once more, and the
same labels: roles of the one are groups of the other, and are declared in other calls.  Labels for
an entity with the name for none do no harm. -/
theorem Domain.vocabulary_of_names_reordered :
    let d := (ofLists ["greet"] ["Hi"] ["city", "date"]).declareAll
      [.roles "city" ["from", "to"], .roles "no entity" ["to"], .groups "date" ["to"]]
    let d' := (ofLists [] ["Bye"] ["date", "city", "date"]).declareAll
      [.groups "no entity" ["to"], .roles "city" ["to"], .groups "city" ["from"],
       .roles "date" ["to", "to"]]
    (∀ name, name ∈ d.entities ↔ name ∈ d'.entities) ∧
      (∀ name, d.IsLabelled name ↔ d'.IsLabelled name) ∧
      d.roles.toList.reverse.Perm d.roles.toList ∧
      d.entityStates = d'.entityStates ∧
      (collectNames d.entities (d.roles.toList.reverse ++ d.groups.toList)).toList =
        d'.entityStates ∧
      (∀ (boundaries : Bool) (s s' : StateEncoder),
        (Encoder.setupCopy (EntityEncoder.unconfigured boundaries) d s).map (·.table?) =
          (Encoder.setupCopy (EntityEncoder.unconfigured boundaries) d' s').map (·.table?)) ∧
      ∀ (boundaries : Bool) (s : StateEncoder) (error : SetupError) (e' : EntityEncoder),
        (Encoder.setup d s).run (.unconfigured boundaries) ≠ .error error e' := by
  intro d d'
  have hentities : ∀ name, name ∈ d.entities ↔ name ∈ d'.entities := by
    intro name
    rw [entities_declareAll, entities_declareAll]
    grind [ofLists]
  have hlabelled : ∀ name, d.IsLabelled name ↔ d'.IsLabelled name := by
    intro name
    simp only [d, d', IsLabelled, labels_declareAll_iff]
    simp [Labels, EntityLabels.Lists, ofLists, Declaration.Gives]
    grind
  obtain ⟨_, _, hsame, hcollect, _, hreserved, _⟩ := vocabulary_of_names d
  obtain ⟨hstates, htables⟩ := hsame d' hentities hlabelled
  have hreverse := List.reverse_perm d.roles.toList
  have hcollected := hcollect _ _ hreverse (List.Perm.refl _)
  refine ⟨hentities, hlabelled, hreverse, hstates, hcollected.trans hstates, htables, ?_⟩
  intro boundaries s error e' herror
  have hlisted := ((hreserved boundaries s error e').1 herror).1
  rw [entities_declareAll] at hlisted
  exact absurd hlisted (by decide)

end TargetEncoding
