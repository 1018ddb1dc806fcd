import Std.Data.ExtTreeMap
import TargetEncoding.Attribute
import TargetEncoding.Matrix.Sparse

/-! # Features

A feature is a matrix together with what it describes: one row per token, one row for the whole
utterance, or one id per row.  Tag ids travel as a feature too, packed into one column of
single-precision numbers by `Feature.ofTagIds` and taken out again by `Feature.tagIds?`. -/

namespace TargetEncoding

/-- A dense or a sparse matrix. -/
inductive Matrix where
  | dense (m : DenseMatrix)
  | sparse (m : SparseMatrix)

namespace Matrix

/-- Number of rows and number of columns. -/
def shape : Matrix → Nat × Nat
  | .dense m => m.shape
  | .sparse m => m.shape

/-- The matrix lists written cells only. -/
def isSparse : Matrix → Bool
  | .dense _ => false
  | .sparse _ => true

/-- Equality of matrices of the same make; a dense matrix never equals a sparse one. -/
instance : BEq Matrix where
  beq
    | .dense a, .dense b => a == b
    | .sparse a, .sparse b => a == b
    | _, _ => false

end Matrix

/-- What the rows of a feature stand for. -/
inductive FeatureKind where
  /-- One row per token. -/
  | sequence
  /-- One row for the utterance. -/
  | sentence
  /-- One id per row. -/
  | ids
deriving DecidableEq

namespace FeatureKind

/-- The written name. -/
def name : FeatureKind → String
  | .sequence => "sequence"
  | .sentence => "sentence"
  | .ids => "ids"

/-- The kind with the given name. -/
def ofName? (s : String) : Option FeatureKind :=
  [sequence, sentence, ids].find? (·.name == s)

end FeatureKind

/-- A matrix that describes one attribute of a message. -/
structure Feature where
  kind : FeatureKind
  attr : Attribute
  /-- The component that made the matrix. -/
  origin : String
  matrix : Matrix

namespace Feature

instance : BEq Feature where
  beq a b :=
    a.kind == b.kind && a.attr == b.attr && a.origin == b.origin && a.matrix == b.matrix

/-- The origin of packed tag ids. -/
def tagIdOrigin : String := "tag_id"

/-- Packs tag ids, one per row, as the nearest single-precision numbers. -/
def ofTagIds (ids : List Nat) : Feature where
  kind := .ids
  attr := .text
  origin := tagIdOrigin
  matrix := .dense (.column (ids.map Single.ofNat))

/-- Takes the ids out of an id feature, which is dense and one column wide. -/
def tagIds? (f : Feature) : Option (List Nat) :=
  match f.kind, f.matrix with
  | .ids, .dense m => if m.width = 1 then some (m.firstColumn.map Single.toIndex) else none
  | _, _ => none

theorem tagIds?_ofTagIds (ids : List Nat) :
    (ofTagIds ids).tagIds? = some (ids.map fun n => (Single.ofNat n).toIndex) := by
  simp only [tagIds?, ofTagIds, DenseMatrix.firstColumn_column, List.map_map, Function.comp_def]
  rfl

end Feature

/-- Features by the name of their group. -/
abbrev FeatureGroups := Std.ExtTreeMap String (List Feature)

end TargetEncoding
