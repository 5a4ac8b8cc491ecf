import NeighbourInfo.Chance
import NeighbourInfo.Mask
import NeighbourInfo.Norm
import NeighbourInfo.Table.Gather
import NeighbourInfo.Table.Standardise

/-
  Operations on the rows of arrays of any number of axes.

  Key definitions include:
    * `NeighbourInfo.Tensor.standardise`
    * `NeighbourInfo.Tensor.addNoise`
    * `NeighbourInfo.Tensor.gather`
    * `NeighbourInfo.Tensor.extract`
    * `NeighbourInfo.Tensor.retain`
    * `NeighbourInfo.Tensor.distances`

  The rows of an array lie along its first axis.  Each of the
  operations is that of tables, with the remaining axes laid
  out along the row.
-/

------------------------------------------------------------
-- Rows Of Arrays
------------------------------------------------------------

namespace NeighbourInfo

namespace Tensor

variable {α : Type}

/- The lengths of an array along all axes but the first. -/
def restShape
    (t : Tensor α) :
    List Nat :=
  t.shape.drop 1

/- The rows of an array, which needs a first axis. -/
def rowTable
    (t : Tensor α) :
    Except (Error α) (Table α) :=
  match Table.alongFirstAxis? t with
  | some table => .ok table
  | none => .error .noFirstAxis

/- A flat array. -/
def ofList
    (entries : List α) :
    Tensor α :=
  ⟨[entries.length], entries⟩

end Tensor

end NeighbourInfo

------------------------------------------------------------
-- Changing Entries
------------------------------------------------------------

namespace NeighbourInfo

namespace Tensor

variable {α : Type} [Scalar α]

/-
  Standardise along the first axis.  A flat array has no
  columns to standardise and is refused.
-/
def standardise
    (t : Tensor α) :
    Except (Error α) (Tensor α) := do
  if t.axes = 0 then throw .missingAxis
  let table ← t.rowTable
  if t.axes < 2 then throw .wrongKind
  return table.standardise.toTensor t.restShape

/- Add a normal number to every entry, in their order. -/
def addNoise
    (level : α)
    (t : Tensor α)
    (c : Chance α) :
    Except (Error α) (Tensor α × Chance α) := do
  let line : Table α := ⟨t.entries.length, [t.entries]⟩
  let (noisy, c) ← line.addNoise level c
  return (⟨t.shape, noisy.rows.flatten⟩, c)

end Tensor

end NeighbourInfo

------------------------------------------------------------
-- Selecting Rows
------------------------------------------------------------

namespace NeighbourInfo

namespace Tensor

variable {α : Type}

/-
  The rows in the order of the indices.  A row has to have at
  least one axis of its own.
-/
def gather
    (t : Tensor α)
    (indices : List Int) :
    Except (Error α) (Tensor α) := do
  if t.axes < 2 then throw .tooFewAxes
  let table ← t.rowTable
  let gathered ← table.gather indices
  return gathered.toTensor t.restShape

/- The rows in the order of indices that a caller gives. -/
def extract
    [Scalar α] [Literal α]
    (t : Tensor α)
    (indices : Value α) :
    Except (Error α) (Tensor α) := do
  let indices ← Tensor.indices indices
  t.gather indices

/- The rows that a mask keeps. -/
def retain
    (mask : Mask)
    (t : Tensor α) :
    Except (Error α) (Tensor α) := do
  let table ← t.rowTable
  let kept ← table.retain mask
  return kept.toTensor t.restShape

end Tensor

end NeighbourInfo

------------------------------------------------------------
-- Distances
------------------------------------------------------------

namespace NeighbourInfo

namespace Tensor

variable {α : Type} [Scalar α]

/-
  The distances from one point to the rows of an array of two
  axes.  The entries of the point are its coordinates.
-/
def distances
    (norm : Norm)
    (t : Tensor α)
    (point : Tensor α) :
    Except (Error α) (List α) := do
  if t.axes ≠ 2 then throw .shapeMismatch
  let table ← t.rowTable
  if table.width ≠ point.entries.length then
    throw .shapeMismatch
  return table.rows.map (norm.distance point.entries)

end Tensor

end NeighbourInfo
