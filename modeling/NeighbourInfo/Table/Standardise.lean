import NeighbourInfo.Table.Basic

/-
  Columns of zero mean and unit standard deviation.

  Key definitions include:
    * `NeighbourInfo.Table.columns`
    * `NeighbourInfo.Table.standardise`
-/

------------------------------------------------------------
-- Columns
------------------------------------------------------------

namespace NeighbourInfo

namespace Table

variable {α : Type} [Scalar α]

/- The columns of a table, from left to right. -/
def columns
    (t : Table α) :
    List (List α) :=
  (List.range t.width).map fun j =>
    t.rows.map fun row => row.getD j 0

/- There are as many columns as the table is wide. -/
@[simp]
theorem length_columns
    (t : Table α) :
    t.columns.length = t.width := by
  simp [columns]

end Table

end NeighbourInfo

------------------------------------------------------------
-- Standardising
------------------------------------------------------------

namespace NeighbourInfo

namespace Table

variable {α : Type} [Scalar α]

/-
  The standard deviation a column is divided by: its own, or
  one where that is zero, so that a constant column is only
  centred.
-/
def spread
    (column : List α) :
    α :=
  let deviation := Scalar.deviation column
  if Scalar.eq deviation 0 then Scalar.ofNat 1 else deviation

/- Shift and scale every column by its mean and spread. -/
def standardise
    (t : Table α) :
    Table α :=
  let measures :=
    t.columns.map fun column =>
      (Scalar.mean column, spread column)
  ⟨t.width,
    t.rows.map fun row =>
      List.zipWith
        (fun a measure => (a - measure.1) / measure.2)
        row measures⟩

/- Standardising keeps the number of rows. -/
@[simp]
theorem size_standardise
    (t : Table α) :
    t.standardise.size = t.size := by
  simp [standardise, size]

end Table

end NeighbourInfo
