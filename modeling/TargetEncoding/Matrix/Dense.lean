import TargetEncoding.Single

/-! # Dense matrices

A dense matrix is its list of rows.  The width is part of the value, since a matrix without rows
still has one; that every row has it is carried as a proof field. -/

namespace TargetEncoding

/-- A matrix given row by row. -/
structure DenseMatrix where
  width : Nat
  rows : List (List Single)
  length_of_mem : ∀ row ∈ rows, row.length = width

namespace DenseMatrix

/-- Number of rows and number of columns. -/
def shape (m : DenseMatrix) : Nat × Nat := (m.rows.length, m.width)

/-- The matrix with one column. -/
def column (cells : List Single) : DenseMatrix where
  width := 1
  rows := cells.map ([·])
  length_of_mem := by simp

/-- The first cell of every row. -/
def firstColumn (m : DenseMatrix) : List Single :=
  m.rows.filterMap (·.head?)

/-- The matrix whose cell in row `r` and column `c` is `cell r c`. -/
def build (height width : Nat) (cell : Nat → Nat → Single) : DenseMatrix where
  width := width
  rows := (List.range height).map fun r => (List.range width).map (cell r)
  length_of_mem := by simp

/-- The cells of a matrix in reading order, if their number is the right one. -/
def ofCells? (height width : Nat) (cells : List Single) : Option DenseMatrix :=
  if cells.length = height * width then
    let cells := cells.toArray
    some (build height width fun r c => cells.getD (r * width + c) 0)
  else none

/-- Same shape and, cell by cell, equal values. -/
instance : BEq DenseMatrix := ⟨fun a b => a.width == b.width && a.rows == b.rows⟩

@[simp] theorem shape_column (cells : List Single) : (column cells).shape = (cells.length, 1) := by
  simp [shape, column]

@[simp] theorem firstColumn_column (cells : List Single) : (column cells).firstColumn = cells := by
  simp [firstColumn, column, List.filterMap_map, Function.comp_def]

end DenseMatrix

end TargetEncoding
