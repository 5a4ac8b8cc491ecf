import NeighbourInfo.Tensor.Basic

/-
  Tables of observations, one observation a row.

  Key definitions include:
    * `NeighbourInfo.Table`
    * `NeighbourInfo.Table.ofTensor`
    * `NeighbourInfo.Table.ofValue`
    * `NeighbourInfo.Table.concat`
-/

------------------------------------------------------------
-- Tables
------------------------------------------------------------

namespace NeighbourInfo

/- Rows of a common width; a table may have no row at all. -/
structure Table (α : Type) where
  width : Nat
  rows : List (List α)
deriving DecidableEq, Repr, Inhabited

namespace Table

variable {α : Type}

/- Every row is as long as the table is wide. -/
def IsRectangular
    (t : Table α) :
    Prop :=
  ∀ row ∈ t.rows, row.length = t.width

/- The number of rows. -/
def size
    (t : Table α) :
    Nat :=
  t.rows.length

/- Put tables of one width below each other. -/
def concat
    (width : Nat)
    (ts : List (Table α)) :
    Table α :=
  ⟨width, ts.flatMap Table.rows⟩

end Table

end NeighbourInfo

------------------------------------------------------------
-- Tables And Arrays
------------------------------------------------------------

namespace NeighbourInfo

namespace Table

variable {α : Type}

/- Cut a list into `count` rows of one width. -/
def cut
    (width : Nat)
    (entries : List α) :
    Nat → List (List α)
  | 0 => []
  | count + 1 =>
      entries.take width ::
        cut width (entries.drop width) count

/- As many rows are cut as were asked for. -/
@[simp]
theorem length_cut
    (width : Nat)
    (entries : List α)
    (count : Nat) :
    (cut width entries count).length = count := by
  induction count generalizing entries with
  | zero => rfl
  | succ count ih => simp [cut, ih]

/-
  Rows along the first axis of an array, all other axes laid
  out along the row.  An array without axes has no rows.
-/
def alongFirstAxis?
    (t : Tensor α) :
    Option (Table α) :=
  match t.shape with
  | [] => none
  | count :: rest =>
      let width := rest.foldl (· * ·) 1
      some ⟨width, cut width t.entries count⟩

/- Put rows back under the remaining axes of an array. -/
def toTensor
    (t : Table α)
    (rest : List Nat) :
    Tensor α :=
  ⟨t.size :: rest, t.rows.flatten⟩

end Table

end NeighbourInfo

------------------------------------------------------------
-- Data Of One Variable
------------------------------------------------------------

namespace NeighbourInfo

namespace Table

variable {α : Type} [Scalar α]

/-
  The table of a variable of dimension `dim`, from an array of
  one row per observation.  A flat array is a single column.
  A dimension that is no number is the width of no table.
-/
def ofTensor
    (dim : Value α)
    (t : Tensor α) :
    Except (Error α) (Table α) :=
  match t.shape with
  | [count] =>
      if dim.equalsInt 1 then
        .ok ⟨1, cut 1 t.entries count⟩
      else .error (.flatData dim)
  | [count, width] =>
      if dim.equalsInt width then
        .ok ⟨width, cut width t.entries count⟩
      else .error (.wrongColumns dim width)
  | shape => .error (.wrongAxes shape.length)

/- Read the table of a variable. -/
def ofValue
    [Literal α]
    (dim : Int)
    (v : Value α) :
    Except (Error α) (Table α) := do
  let t ← Tensor.scalars v
  ofTensor (.whole dim) t

end Table

end NeighbourInfo
