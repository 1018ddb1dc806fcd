import Std.Data.HashMap
import TargetEncoding.Matrix.Dense

/-! # Sparse matrices

A sparse matrix lists the cells that were written, each with its last value, in the order in which
they were first written.  A table from cells to places in that list spares the search for a cell
that is written again; it is left out of the comparison of two matrices.  Writes outside the shape
are dropped. -/

namespace TargetEncoding

/-- A written cell and its value. -/
structure Entry where
  row : Nat
  column : Nat
  value : Single

namespace Entry

/-- Where the entry stands. -/
def cell (e : Entry) : Nat × Nat := (e.row, e.column)

/-- Same cell and equal value. -/
instance : BEq Entry := ⟨fun a b => a.cell == b.cell && a.value == b.value⟩

end Entry

/-- A matrix given by its written cells. -/
structure SparseMatrix where
  height : Nat
  width : Nat
  entries : Array Entry
  /-- The place in `entries` of every written cell. -/
  places : Std.HashMap (Nat × Nat) Nat

namespace SparseMatrix

/-- The matrix in which nothing is written. -/
def empty (height width : Nat) : SparseMatrix := ⟨height, width, #[], ∅⟩

/-- Number of rows and number of columns. -/
def shape (m : SparseMatrix) : Nat × Nat := (m.height, m.width)

/-- The cell lies inside the shape. -/
def InShape (m : SparseMatrix) (row column : Nat) : Prop :=
  row < m.height ∧ column < m.width

instance (m : SparseMatrix) (row column : Nat) : Decidable (m.InShape row column) :=
  inferInstanceAs (Decidable (_ ∧ _))

/-- Writes a cell.  A cell outside the shape is dropped, and one that was written before keeps its
place in the order. -/
def set (m : SparseMatrix) (row column : Nat) (value : Single) : SparseMatrix :=
  if m.InShape row column then
    match m.places[(row, column)]? with
    | some place => { m with entries := m.entries.modify place ({ · with value }) }
    | none =>
      { m with
        entries := m.entries.push ⟨row, column, value⟩
        places := m.places.insert (row, column) m.entries.size }
  else m

/-- Writes the given cells one after the other. -/
def setAll (m : SparseMatrix) (cells : List Entry) : SparseMatrix :=
  cells.foldl (fun m e => m.set e.row e.column e.value) m

/-- The number of written cells. -/
def size (m : SparseMatrix) : Nat := m.entries.size

/-- The value of a cell, zero if it was never written. -/
def get (m : SparseMatrix) (row column : Nat) : Single :=
  match m.entries.find? (·.cell == (row, column)) with
  | some e => e.value
  | none => 0

/-- All cells, row by row. -/
def toDense (m : SparseMatrix) : DenseMatrix :=
  .build m.height m.width m.get

/-- Same shape and the same entries in the same order. -/
instance : BEq SparseMatrix := ⟨fun a b => a.shape == b.shape && a.entries == b.entries⟩

@[simp] theorem shape_empty (height width : Nat) :
    (empty height width).shape = (height, width) := rfl

@[simp] theorem shape_set (m : SparseMatrix) (row column : Nat) (value : Single) :
    (m.set row column value).shape = m.shape := by
  unfold set
  split
  · split <;> rfl
  · rfl

theorem set_of_not_inShape {m : SparseMatrix} {row column : Nat} (h : ¬ m.InShape row column)
    (value : Single) : m.set row column value = m := by
  simp [set, h]

end SparseMatrix

end TargetEncoding
