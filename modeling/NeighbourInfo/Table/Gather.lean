import NeighbourInfo.Table.Basic

/-
  Gathering the rows of a table in a new order.

  Key definitions include:
    * `NeighbourInfo.Table.position?`
    * `NeighbourInfo.Table.gather`

  An index counts rows from the front, or from the back when
  it is negative.
-/

------------------------------------------------------------
-- Positions
------------------------------------------------------------

namespace NeighbourInfo

namespace Table

/- The position that an index stands for among `n` rows. -/
def position?
    (n : Nat)
    (index : Int) :
    Option Nat :=
  if 0 ≤ index then
    if index < n then some index.toNat else none
  else
    if -(n : Int) ≤ index then some (index + n).toNat
    else none

/- A position is one of the rows. -/
theorem position?_lt
    {n : Nat}
    {index : Int}
    {i : Nat}
    (hPosition : position? n index = some i) :
    i < n := by
  unfold position? at hPosition
  split at hPosition <;> split at hPosition <;>
    simp only [Option.some.injEq, reduceCtorEq] at hPosition
  all_goals omega

/- There is a position exactly within the bounds. -/
theorem isSome_position?_iff
    {n : Nat}
    {index : Int} :
    (position? n index).isSome ↔
      -(n : Int) ≤ index ∧ index < n := by
  unfold position?
  split <;> split <;> simp <;> omega

end Table

end NeighbourInfo

------------------------------------------------------------
-- Gathering
------------------------------------------------------------

namespace NeighbourInfo

namespace Table

variable {α : Type}

/-
  The reason why a number stands for no row.  Only a number of
  sixty-four bits can be an index; one that has no room for a
  sign is told from the others.
-/
def noRow
    (n : Nat)
    (index : Int) :
    Error α :=
  if Tensor.IsIndex index then .outOfBounds index n
  else if 0x8000000000000000 ≤ index ∧ index < 0x10000000000000000 then
    .tooLarge
  else .notIndex

/- The row that an index stands for. -/
def rowAt
    (t : Table α)
    (index : Int) :
    Except (Error α) (List α) :=
  match position? t.size index with
  | some i => .ok (t.rows.getD i [])
  | none => .error (noRow t.size index)

/-
  The rows in the order of the indices.  The first index that
  is out of bounds is the one reported.
-/
def gather
    (t : Table α)
    (indices : List Int) :
    Except (Error α) (Table α) := do
  let rows ← indices.mapM t.rowAt
  return ⟨t.width, rows⟩

end Table

end NeighbourInfo
