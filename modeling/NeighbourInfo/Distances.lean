import NeighbourInfo.Observations
import NeighbourInfo.Separation

/-
  Distances of one point from the rows of each table.

  Key definitions include:
    * `NeighbourInfo.Distances`
    * `NeighbourInfo.Distances.isEven`
    * `NeighbourInfo.Distances.separations`
    * `NeighbourInfo.Observations.distancesAt`

  Each variable is measured on its own, so a list is as long
  as the table it belongs to.  The one distance from a table
  of a single row holds for all points.
-/

------------------------------------------------------------
-- Distances
------------------------------------------------------------

namespace NeighbourInfo

/- The distances from the rows of each of the tables. -/
structure Distances (α : Type) where
  x : List α
  y : List α
  z : List α
deriving DecidableEq, Repr, Inhabited

namespace Distances

variable {α : Type}

/- There are as many distances in one variable as in all. -/
def isEven
    (d : Distances α) :
    Bool :=
  d.y.length == d.x.length && d.z.length == d.x.length

/- The lengths of even distances are all equal. -/
theorem isEven_iff
    {d : Distances α} :
    d.isEven ↔
      d.y.length = d.x.length ∧ d.z.length = d.x.length := by
  simp [isEven]

end Distances

end NeighbourInfo

------------------------------------------------------------
-- Separations
------------------------------------------------------------

namespace NeighbourInfo

namespace Distances

variable {α : Type}

/- Repeat a single item up to a length. -/
def stretch
    {β : Type}
    (n : Nat) :
    List β → List β
  | [b] => List.replicate n b
  | bs => bs

/- A list of the length asked for is left as it is. -/
@[simp]
theorem stretch_length
    {β : Type}
    (bs : List β) :
    stretch bs.length bs = bs := by
  match bs with
  | [] => rfl
  | [_] => rfl
  | _ :: _ :: _ => rfl

/- The length of two lists once a single item is repeated. -/
def commonLength
    (m : Nat)
    (n : Nat) :
    Except (Error α) Nat :=
  if m = n ∨ n = 1 then .ok m
  else if m = 1 then .ok n
  else .error (.unequalShapes [m] [n])

/- Lists of one length have that length in common. -/
@[simp]
theorem commonLength_self
    (n : Nat) :
    commonLength (α := α) n n = .ok n := by
  simp [commonLength]

/- The separations that have these distances. -/
def separations
    (d : Distances α) :
    Except (Error α) (List (Separation α)) := do
  let n ← commonLength d.x.length d.y.length
  let n ← commonLength n d.z.length
  let pairs := (stretch n d.y).zip (stretch n d.z)
  return ((stretch n d.x).zip pairs).map fun (x, y, z) =>
    ⟨x, y, z⟩

/- Distances to the same points are put together in order. -/
theorem separations_of_isEven
    {d : Distances α}
    (hEven : d.isEven) :
    d.separations =
      .ok ((d.x.zip (d.y.zip d.z)).map fun (x, y, z) =>
        ⟨x, y, z⟩) := by
  obtain ⟨hY, hZ⟩ := isEven_iff.mp hEven
  have hStretchY : stretch d.x.length d.y = d.y := by
    rw [← hY, stretch_length]
  have hStretchZ : stretch d.x.length d.z = d.z := by
    rw [← hZ, stretch_length]
  rw [separations, hY, commonLength_self]
  change (do
    let n ← commonLength d.x.length d.z.length
    return _) = _
  rw [hZ, commonLength_self]
  change Except.ok _ = _
  rw [stretch_length, hStretchY, hStretchZ]

end Distances

end NeighbourInfo

------------------------------------------------------------
-- Distances Of A Point
------------------------------------------------------------

namespace NeighbourInfo

namespace Observations

variable {α : Type} [Scalar α]

/- The distances from one row of a table to all its rows. -/
def distancesFrom
    (norm : Norm)
    (point : Int)
    (t : Table α) :
    Except (Error α) (List α) := do
  let centre ← t.rowAt point
  return t.rows.map (norm.distance centre)

/- The distances of one point, in each of the variables. -/
def distancesAt
    (norm : Norm)
    (data : Observations α)
    (point : Int) :
    Except (Error α) (Distances α) := do
  let x ← distancesFrom norm point data.x
  let y ← distancesFrom norm point data.y
  let z ← distancesFrom norm point data.z
  return ⟨x, y, z⟩

end Observations

end NeighbourInfo
