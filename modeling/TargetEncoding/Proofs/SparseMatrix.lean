import Mathlib.Data.Finset.Card
import TargetEncoding.Matrix.Sparse
import TargetEncoding.Proofs.ForStd

/-!
# The last write to a cell counts

A sparse matrix is filled by writes, each of which may hit a cell for the first time, hit it again,
or miss the shape.  Whatever the sequence, the entries are the cells that were hit, in the order of
their first hit, each with its last value, and the table of places agrees with them (`Holds`).  So
filling a dense matrix from the entries never leaves its bounds, and gives the grid in which every
cell holds what was last written to it.

## Key results

- `SparseMatrix.Holds.set`: one write
- `SparseMatrix.holds_setAll`: a sequence of writes
- `DenseMatrix.foldlM_set?_build`: filling a dense matrix
- `SparseMatrix.keeps_setAll`: writes that hit and never twice are all kept
- `SparseMatrix.setAll_lastWrite`: the entries, the places and the dense matrix after all writes
-/

namespace TargetEncoding

/-! ## Sequences of writes -/

/-- The writes that hit a cell of the shape. -/
def hits (height width : Nat) (writes : List Entry) : List Entry :=
  writes.filter fun w => w.row < height ∧ w.column < width

theorem hits_eq_self {height width : Nat} {writes : List Entry}
    (h : ∀ w ∈ writes, w.row < height ∧ w.column < width) : hits height width writes = writes := by
  rw [hits, List.filter_eq_self]
  intro w hw
  simpa using h w hw

/-- The value that was written to a cell last. -/
def lastValue? (writes : List Entry) (cell : Nat × Nat) : Option Single :=
  (writes.reverse.find? (·.cell == cell)).map (·.value)

/-- The cells that were written, in the order of their first write. -/
def writtenCells (writes : List Entry) : List (Nat × Nat) :=
  (writes.map Entry.cell).eraseDups

/-- An entry for a cell that was written, with its last value. -/
def lastEntry (writes : List Entry) (cell : Nat × Nat) : Entry :=
  ⟨cell.1, cell.2, (lastValue? writes cell).getD 0⟩

theorem cell_lastEntry (writes : List Entry) (cell : Nat × Nat) :
    (lastEntry writes cell).cell = cell := rfl

theorem lastValue?_concat (writes : List Entry) (w : Entry) (cell : Nat × Nat) :
    lastValue? (writes ++ [w]) cell =
      if w.cell = cell then some w.value else lastValue? writes cell := by
  rw [lastValue?, List.reverse_append, List.reverse_singleton, List.singleton_append,
    List.find?_cons]
  by_cases h : w.cell = cell
  · rw [if_pos h, h, BEq.rfl, Option.map_some]
  · rw [if_neg h, beq_eq_false_iff_ne.2 h]
    rfl

theorem lastValue?_cons (w : Entry) (writes : List Entry) (cell : Nat × Nat) :
    lastValue? (w :: writes) cell =
      (lastValue? writes cell).or (if w.cell = cell then some w.value else none) := by
  rw [lastValue?, List.reverse_cons, List.find?_append, Option.map_or, ← lastValue?,
    List.find?_singleton]
  by_cases h : w.cell = cell
  · rw [if_pos h, h, BEq.rfl]
    rfl
  · rw [if_neg h, beq_eq_false_iff_ne.2 h]
    rfl

theorem mem_writtenCells_iff {writes : List Entry} {cell : Nat × Nat} :
    cell ∈ writtenCells writes ↔ ∃ w ∈ writes, w.cell = cell := by
  rw [writtenCells, List.mem_eraseDups, List.mem_map]

theorem nodup_writtenCells (writes : List Entry) : (writtenCells writes).Nodup :=
  List.nodup_eraseDups _

/-- One more write adds its cell, unless it was written before. -/
theorem writtenCells_concat (writes : List Entry) (w : Entry) :
    writtenCells (writes ++ [w]) =
      if w.cell ∈ writtenCells writes then writtenCells writes
      else writtenCells writes ++ [w.cell] := by
  rw [writtenCells, List.map_append, List.map_singleton, List.eraseDups_concat, ← writtenCells]
  simp only [writtenCells, List.mem_eraseDups]

/-- A cell has a last value if it was written. -/
theorem isSome_lastValue?_iff {writes : List Entry} {cell : Nat × Nat} :
    (lastValue? writes cell).isSome ↔ cell ∈ writtenCells writes := by
  rw [lastValue?, Option.isSome_map, List.find?_isSome, mem_writtenCells_iff]
  simp only [List.mem_reverse, beq_iff_eq]

/-! ## The entries and places of a sparse matrix -/

namespace SparseMatrix

/-- The matrix holds the writes, all of which hit its shape: an entry for each cell with its last
value, in the order of first writes, and the place of each entry. -/
structure Holds (m : SparseMatrix) (height width : Nat) (writes : List Entry) : Prop where
  shape : m.shape = (height, width)
  inside : ∀ w ∈ writes, w.row < height ∧ w.column < width
  entries : m.entries.toList = (writtenCells writes).map (lastEntry writes)
  places : ∀ (cell : Nat × Nat) (place : Nat), m.places[cell]? = some place ↔
    (writtenCells writes)[place]? = some cell

variable {m : SparseMatrix} {height width : Nat} {writes : List Entry}

theorem holds_empty (height width : Nat) : (empty height width).Holds height width [] where
  shape := rfl
  inside := by simp
  entries := rfl
  places := by simp [empty, writtenCells]

theorem Holds.size_entries (h : m.Holds height width writes) :
    m.entries.size = (writtenCells writes).length := by
  rw [← Array.length_toList, h.entries, List.length_map]

/-- Writing a cell again changes its entry and nothing else. -/
theorem Holds.entries_modify (h : m.Holds height width writes) {w : Entry} {place : Nat}
    (hplace : (writtenCells writes)[place]? = some w.cell) :
    (m.entries.modify place ({ · with value := w.value })).toList =
      (writtenCells writes).map (lastEntry (writes ++ [w])) := by
  rw [Array.toList_modify, h.entries]
  apply List.ext_getElem?
  intro i
  rw [List.getElem?_modify, List.getElem?_map, List.getElem?_map]
  cases hi : (writtenCells writes)[i]? with
  | none => split <;> rfl
  | some cell =>
    -- the cell of the entry is the one that is written only at its place
    have hcell : place = i ↔ w.cell = cell := by
      constructor
      · intro heq
        rw [heq, hi] at hplace
        exact (Option.some.inj hplace).symm
      · intro heq
        rw [← heq] at hi
        exact (List.getElem?_inj (List.getElem?_eq_some_iff.1 hplace).1
          (nodup_writtenCells writes)).1 (hplace.trans hi.symm)
    simp only [Option.map_some, lastEntry, lastValue?_concat, ← hcell]
    by_cases heq : place = i
    · simp [heq]
    · simp [heq]

/-- A write that hits the shape. -/
theorem Holds.set (h : m.Holds height width writes) {w : Entry} (hrow : w.row < height)
    (hcolumn : w.column < width) :
    (m.set w.row w.column w.value).Holds height width (writes ++ [w]) := by
  obtain ⟨rfl, rfl⟩ : m.height = height ∧ m.width = width := Prod.mk.inj h.shape
  have hin : m.InShape w.row w.column := ⟨hrow, hcolumn⟩
  have hinside : ∀ w' ∈ writes ++ [w], w'.row < m.height ∧ w'.column < m.width := by
    intro w' hw'
    rcases List.mem_append.1 hw' with hw' | hw'
    · exact h.inside w' hw'
    · rw [List.mem_singleton.1 hw']
      exact hin
  rw [SparseMatrix.set, if_pos hin]
  cases hplace : m.places[(w.row, w.column)]? with
  | some place =>
    -- the cell was written before, and keeps its place
    have hcell : (writtenCells writes)[place]? = some w.cell := (h.places _ _).1 hplace
    have hcells : writtenCells (writes ++ [w]) = writtenCells writes := by
      rw [writtenCells_concat, if_pos (List.mem_of_getElem? hcell)]
    exact {
      shape := rfl
      inside := hinside
      entries := by rw [hcells]; exact h.entries_modify hcell
      places := by rw [hcells]; exact h.places }
  | none =>
    -- the cell is new, and its place is behind all others
    have hnew : w.cell ∉ writtenCells writes := by
      intro hmem
      obtain ⟨place, hget⟩ := List.getElem?_of_mem hmem
      have hsome : m.places[(w.row, w.column)]? = some place := (h.places w.cell place).2 hget
      rw [hplace] at hsome
      cases hsome
    have hcells : writtenCells (writes ++ [w]) = writtenCells writes ++ [w.cell] := by
      rw [writtenCells_concat, if_neg hnew]
    refine ⟨rfl, hinside, ?_, ?_⟩
    · have hold : ∀ cell ∈ writtenCells writes,
          lastEntry writes cell = lastEntry (writes ++ [w]) cell := by
        intro cell hcell
        have hne : w.cell ≠ cell := fun heq => hnew (heq ▸ hcell)
        rw [lastEntry, lastEntry, lastValue?_concat, if_neg hne]
      have hlast : lastEntry (writes ++ [w]) w.cell = w := by
        rw [lastEntry, lastValue?_concat, if_pos rfl]
        rfl
      rw [Array.toList_push, h.entries, hcells, List.map_append, List.map_singleton, hlast,
        List.map_congr_left hold]
    · intro cell place
      have hcell : ((w.row, w.column) == cell) = true ↔ w.cell = cell := beq_iff_eq
      rw [Std.HashMap.getElem?_insert, hcells, h.size_entries, List.getElem?_concat_eq_some_iff]
      simp only [hcell]
      by_cases heq : w.cell = cell
      · subst heq
        have hnone : (writtenCells writes)[place]? ≠ some w.cell :=
          fun hget => hnew (List.mem_of_getElem? hget)
        simp [hnone, eq_comm]
      · simp [heq, h.places]

theorem setAll_concat (m : SparseMatrix) (writes : List Entry) (w : Entry) :
    m.setAll (writes ++ [w]) = (m.setAll writes).set w.row w.column w.value := by
  rw [setAll, List.foldl_append]
  rfl

/-- After any sequence of writes the matrix holds those that hit. -/
theorem holds_setAll (height width : Nat) (writes : List Entry) :
    ((empty height width).setAll writes).Holds height width (hits height width writes) := by
  -- the last write of the sequence is the last one made
  induction writes using List.reverseRecOn with
  | nil => exact holds_empty height width
  | append_singleton writes w ih =>
    rw [setAll_concat, hits, List.filter_append, ← hits]
    by_cases hhit : w.row < height ∧ w.column < width
    · rw [List.filter_cons_of_pos (by simpa using hhit)]
      exact ih.set hhit.1 hhit.2
    · obtain ⟨hheight, hwidth⟩ := Prod.mk.inj ih.shape
      have hmiss : ¬ ((empty height width).setAll writes).InShape w.row w.column := by
        rwa [InShape, hheight, hwidth]
      rw [List.filter_cons_of_neg (by simpa using hhit), set_of_not_inShape hmiss]
      simpa using ih

end SparseMatrix

/-! ## Filling a dense matrix -/

namespace DenseMatrix

/-- The value of a cell that the matrix has. -/
def get? (m : DenseMatrix) (row column : Nat) : Option Single :=
  m.rows[row]?.bind (·[column]?)

/-- Writes a cell, which the matrix must have. -/
def set? (m : DenseMatrix) (row column : Nat) (value : Single) : Option DenseMatrix :=
  if row < m.rows.length ∧ column < m.width then
    some {
      width := m.width
      rows := m.rows.modify row (·.set column value)
      length_of_mem := by
        intro cells hcells
        obtain ⟨i, hi, rfl⟩ := List.mem_iff_getElem.1 hcells
        rw [List.length_modify] at hi
        rw [List.getElem_modify]
        have := m.length_of_mem _ (List.getElem_mem hi)
        split <;> simpa using this }
  else none

theorem get?_build {height width row column : Nat} (cell : Nat → Nat → Single)
    (hrow : row < height) (hcolumn : column < width) :
    (build height width cell).get? row column = some (cell row column) := by
  simp [get?, build, hrow, hcolumn]

theorem build_congr {height width : Nat} {f g : Nat → Nat → Single}
    (h : ∀ row < height, ∀ column < width, f row column = g row column) :
    build height width f = build height width g := by
  rw [build, mk.injEq]
  refine ⟨rfl, List.map_congr_left fun row hrow => List.map_congr_left fun column hcolumn => ?_⟩
  exact h row (List.mem_range.1 hrow) column (List.mem_range.1 hcolumn)

theorem set?_build {height width row column : Nat} (cell : Nat → Nat → Single)
    (hrow : row < height) (hcolumn : column < width) (value : Single) :
    (build height width cell).set? row column value =
      some (build height width fun r c => if (row, column) = (r, c) then value else cell r c) := by
  have hin : row < (build height width cell).rows.length ∧
      column < (build height width cell).width := by
    simpa [build] using ⟨hrow, hcolumn⟩
  rw [set?, if_pos hin, Option.some.injEq, mk.injEq]
  refine ⟨rfl, List.ext_getElem? fun r => ?_⟩
  simp only [build, List.getElem?_modify, List.getElem?_map]
  rcases Nat.lt_or_ge r height with hr | hr
  · rw [List.getElem?_range hr, Option.map_some, Option.map_some, Option.map_eq_map,
      Option.map_some, Option.some.injEq]
    apply List.ext_getElem?
    intro c
    by_cases hrr : row = r
    · rcases Nat.lt_or_ge c width with hc | hc <;>
        by_cases hcc : column = c <;> simp [hrr, hcc, hc]
    · simp [hrr]
  · simp [hr]

/-- Entries that lie inside are written one after the other without fail, and each cell holds the
last value that was written to it. -/
theorem foldlM_set?_build {height width : Nat} {entries : List Entry}
    (hin : ∀ e ∈ entries, e.row < height ∧ e.column < width) (cell : Nat → Nat → Single) :
    entries.foldlM (fun dense e => dense.set? e.row e.column e.value) (build height width cell) =
      some (build height width fun r c => (lastValue? entries (r, c)).getD (cell r c)) := by
  induction entries generalizing cell with
  | nil => rfl
  | cons e entries ih =>
    obtain ⟨hrow, hcolumn⟩ := hin e List.mem_cons_self
    have hrest := fun e' he' => hin e' (List.mem_cons_of_mem e he')
    rw [List.foldlM_cons, set?_build cell hrow hcolumn]
    refine (ih hrest _).trans (congrArg some (build_congr fun r _ c _ => ?_))
    -- a later value of the cell goes before the one written here
    rw [lastValue?_cons, Entry.cell]
    cases lastValue? entries (r, c) with
    | some value => rfl
    | none => split <;> rfl

end DenseMatrix

namespace SparseMatrix

/-- Writes the entries one after the other into a matrix of zeros, which must have their cells. -/
def fill? (m : SparseMatrix) : Option DenseMatrix :=
  m.entries.toList.foldlM (fun dense e => dense.set? e.row e.column e.value)
    (.build m.height m.width fun _ _ => 0)

variable {m : SparseMatrix} {height width : Nat} {writes : List Entry}

/-- Searching the entries of the written cells finds the last value of a cell. -/
theorem find?_map_lastEntry {cells : List (Nat × Nat)} {cell : Nat × Nat}
    (hcells : cell ∈ cells ↔ cell ∈ writtenCells writes) :
    ((cells.map (lastEntry writes)).find? (·.cell == cell)).map (·.value) =
      lastValue? writes cell := by
  rw [List.find?_map, Option.map_map]
  cases hfind : cells.find? ((·.cell == cell) ∘ lastEntry writes) with
  | some found =>
    obtain rfl : found = cell := by simpa [cell_lastEntry] using List.find?_some hfind
    have hwritten := hcells.1 (List.mem_of_find?_eq_some hfind)
    obtain ⟨value, hvalue⟩ := Option.isSome_iff_exists.1 (isSome_lastValue?_iff.2 hwritten)
    simp [lastEntry, hvalue]
  | none =>
    have hnot : cell ∉ writtenCells writes := by
      intro hwritten
      simpa [cell_lastEntry] using List.find?_eq_none.1 hfind cell (hcells.2 hwritten)
    rw [← isSome_lastValue?_iff, Option.not_isSome_iff_eq_none] at hnot
    rw [hnot]
    rfl

theorem Holds.lastValue?_entries (h : m.Holds height width writes) (cell : Nat × Nat) :
    lastValue? m.entries.toList cell = lastValue? writes cell := by
  rw [lastValue?, h.entries, ← List.map_reverse]
  exact find?_map_lastEntry List.mem_reverse

theorem Holds.get_eq (h : m.Holds height width writes) (row column : Nat) :
    m.get row column = (lastValue? writes (row, column)).getD 0 := by
  rw [← find?_map_lastEntry Iff.rfl, ← h.entries, Array.find?_toList, get]
  cases m.entries.find? (·.cell == (row, column)) <;> rfl

theorem Holds.inside_of_mem (h : m.Holds height width writes) {e : Entry}
    (he : e ∈ m.entries.toList) :
    (e.row < height ∧ e.column < width) ∧ lastValue? writes e.cell = some e.value := by
  rw [h.entries, List.mem_map] at he
  obtain ⟨cell, hcell, rfl⟩ := he
  obtain ⟨value, hvalue⟩ := Option.isSome_iff_exists.1 (isSome_lastValue?_iff.2 hcell)
  obtain ⟨w, hw, rfl⟩ := mem_writtenCells_iff.1 hcell
  refine ⟨h.inside w hw, ?_⟩
  rw [cell_lastEntry, lastEntry, hvalue]
  rfl

theorem Holds.map_cell_entries (h : m.Holds height width writes) :
    m.entries.toList.map Entry.cell = writtenCells writes := by
  rw [h.entries, List.map_map]
  exact List.map_id _

/-- Filling a matrix of zeros stays in bounds, and gives the dense matrix. -/
theorem Holds.fill?_eq (h : m.Holds height width writes) : m.fill? = some m.toDense := by
  obtain ⟨rfl, rfl⟩ : m.height = height ∧ m.width = width := Prod.mk.inj h.shape
  rw [fill?, DenseMatrix.foldlM_set?_build fun e he => (h.inside_of_mem he).1, toDense]
  simp only [h.lastValue?_entries, ← h.get_eq]

/-! ## Writes that are all kept -/

/-- The writes that a matrix was filled with all hit its shape, each a cell of its own, so they are
its entries. -/
structure Keeps (m : SparseMatrix) (writes : List Entry) : Prop where
  filled : m = (empty m.height m.width).setAll writes
  inShape : ∀ w ∈ writes, m.InShape w.row w.column
  entries : m.entries.toList = writes

theorem lastValue?_of_mem {w : Entry} (hcells : (writes.map Entry.cell).Nodup)
    (hw : w ∈ writes) : lastValue? writes w.cell = some w.value := by
  have hwritten : w.cell ∈ writtenCells writes := mem_writtenCells_iff.2 ⟨w, hw, rfl⟩
  obtain ⟨value, hvalue⟩ := Option.isSome_iff_exists.1 (isSome_lastValue?_iff.2 hwritten)
  obtain ⟨w', hfind, rfl⟩ := Option.map_eq_some_iff.1 hvalue
  have hw' : w' ∈ writes := List.mem_reverse.1 (List.mem_of_find?_eq_some hfind)
  have hcell : w'.cell = w.cell := by simpa using List.find?_some hfind
  -- no other write has the cell
  rw [hvalue, List.inj_on_of_nodup_map hcells hw' hw hcell]

theorem keeps_setAll (hin : ∀ w ∈ writes, w.row < height ∧ w.column < width)
    (hcells : (writes.map Entry.cell).Nodup) :
    ((empty height width).setAll writes).Keeps writes := by
  have h := holds_setAll height width writes
  rw [hits_eq_self hin] at h
  obtain ⟨hheight, hwidth⟩ := Prod.mk.inj h.shape
  constructor
  · rw [hheight, hwidth]
  · intro w hw
    rw [InShape, hheight, hwidth]
    exact hin w hw
  · rw [h.entries, writtenCells, List.eraseDups_of_nodup hcells, List.map_map]
    have hlast : ∀ w ∈ writes, (lastEntry writes ∘ Entry.cell) w = id w := by
      intro w hw
      rw [Function.comp_apply, lastEntry, lastValue?_of_mem hcells hw]
      rfl
    rw [List.map_congr_left hlast, List.map_id]

theorem Keeps.holds (h : m.Keeps writes) : m.Holds m.height m.width writes := by
  have hholds := holds_setAll m.height m.width writes
  rwa [← h.filled, hits_eq_self h.inShape] at hholds

/-- A cell that is written has the value of its entry. -/
theorem Keeps.get_of_mem (h : m.Keeps writes) {w : Entry} (hw : w ∈ writes) :
    m.get w.row w.column = w.value := by
  have hcells : (writes.map Entry.cell).Nodup := by
    rw [← h.entries, h.holds.map_cell_entries]
    exact nodup_writtenCells writes
  rw [h.holds.get_eq]
  show (lastValue? writes w.cell).getD 0 = w.value
  rw [lastValue?_of_mem hcells hw, Option.getD_some]

/-- A cell that is not written is zero. -/
theorem Keeps.get_of_not_mem (h : m.Keeps writes) {row column : Nat}
    (hnot : ∀ w ∈ writes, w.cell ≠ (row, column)) : m.get row column = 0 := by
  have hnone : lastValue? writes (row, column) = none := by
    rw [← Option.not_isSome_iff_eq_none, isSome_lastValue?_iff, mem_writtenCells_iff]
    intro hwritten
    obtain ⟨w, hw, hcell⟩ := hwritten
    exact hnot w hw hcell
  rw [h.holds.get_eq, hnone, Option.getD_none]

/-! ## After all writes -/

/-- After any sequence of writes to an empty matrix the entries lie inside the shape, no cell has
two of them, and the table gives the place of each.  They are the cells that were hit, in the order
of their first hit, each with its last value, and there are as many as there are such cells.
Filling a matrix of zeros with them stays in bounds and gives the dense matrix, in which a cell
holds what was last written to it, or zero.  A write that misses the shape changes nothing. -/
theorem setAll_lastWrite (height width : Nat) (writes : List Entry) :
    let m := (empty height width).setAll writes
    let made := hits height width writes
    m.shape = (height, width) ∧
    (∀ e ∈ m.entries.toList, e.row < height ∧ e.column < width) ∧
    (m.entries.toList.map Entry.cell).Nodup ∧
    (∀ (cell : Nat × Nat) (place : Nat),
      m.places[cell]? = some place ↔ m.entries[place]?.map Entry.cell = some cell) ∧
    m.entries.toList.map Entry.cell = (made.map Entry.cell).eraseDups ∧
    (∀ e ∈ m.entries.toList, lastValue? made e.cell = some e.value) ∧
    m.size = (made.map Entry.cell).toFinset.card ∧
    m.fill? = some m.toDense ∧
    (∀ row < height, ∀ column < width,
      m.toDense.get? row column = some ((lastValue? made (row, column)).getD 0)) ∧
    ∀ w : Entry, ¬ (w.row < height ∧ w.column < width) → m.set w.row w.column w.value = m := by
  intro m made
  have h : m.Holds height width made := holds_setAll height width writes
  obtain ⟨hheight, hwidth⟩ : m.height = height ∧ m.width = width := Prod.mk.inj h.shape
  refine ⟨h.shape, fun e he => (h.inside_of_mem he).1, ?_, ?_, h.map_cell_entries,
    fun e he => (h.inside_of_mem he).2, ?_, h.fill?_eq, ?_, ?_⟩
  · rw [h.map_cell_entries]
    exact nodup_writtenCells made
  · intro cell place
    rw [h.places, ← h.map_cell_entries, List.getElem?_map, Array.getElem?_toList]
  · rw [size, h.size_entries, ← List.toFinset_card_of_nodup (nodup_writtenCells made)]
    congr 1
    ext cell
    rw [List.mem_toFinset, List.mem_toFinset, writtenCells, List.mem_eraseDups]
  · intro row hrow column hcolumn
    rw [toDense, hheight, hwidth, DenseMatrix.get?_build _ hrow hcolumn, h.get_eq]
  · intro w hmiss
    apply set_of_not_inShape
    rwa [InShape, hheight, hwidth]

end SparseMatrix

end TargetEncoding
