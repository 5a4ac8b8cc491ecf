import NeighbourInfo.Error

/-
  How far one point is from the others, and its neighbours.

  Key definitions include:
    * `NeighbourInfo.Separation`
    * `NeighbourInfo.Separation.joint`
    * `NeighbourInfo.Separation.rank?`
    * `NeighbourInfo.Separation.nearest`
    * `NeighbourInfo.Separation.radius`
    * `NeighbourInfo.Window.admits`

  Each variable is measured on its own; in a joint space the
  largest of the distances counts.  A point does not compare
  with itself, nor with the points of its window in time.
-/

------------------------------------------------------------
-- Separations
------------------------------------------------------------

namespace NeighbourInfo

/- The distances of two points, one for each variable. -/
structure Separation (α : Type) where
  x : α
  y : α
  z : α
deriving DecidableEq, Repr, Inhabited

namespace Separation

variable {α : Type} [Scalar α]

/- The distance in the joint space of all variables. -/
def joint
    (s : Separation α) :
    α :=
  Scalar.larger (Scalar.larger s.x s.y) s.z

end Separation

end NeighbourInfo

------------------------------------------------------------
-- Windows
------------------------------------------------------------

namespace NeighbourInfo

namespace Window

/-
  The first place of the window of a point.  A window cannot
  begin before the place zero.
-/
def first
    (window : Int)
    (i : Int) :
    Nat :=
  (i - window).toNat

/-
  The place after the last one of the window of a point.  A
  place below zero is counted from the end of `n` places.
-/
def stop
    (window : Int)
    (i : Int)
    (n : Nat) :
    Nat :=
  let place := i + window + 1
  if place < 0 then (place + n).toNat else place.toNat

/- A place among `n` is outside of the window of a point. -/
def admits
    (window : Int)
    (i : Int)
    (n : Nat)
    (j : Nat) :
    Bool :=
  j < first window i || stop window i n ≤ j

/- Outside means further away in time than the window. -/
theorem admits_iff
    {window : Nat}
    {i : Nat}
    {n : Nat}
    {j : Nat} :
    admits window i n j ↔
      window < ((i : Int) - j).natAbs := by
  simp only [admits, Bool.or_eq_true, decide_eq_true_eq]
  simp only [first, stop]
  split <;> omega

/- No point is admitted to itself. -/
@[simp]
theorem admits_self
    (window : Nat)
    (i : Nat)
    (n : Nat) :
    admits window i n i = false := by
  rw [Bool.eq_false_iff, ne_eq, admits_iff]
  omega

/- Admission does not depend on which point comes first. -/
theorem admits_comm
    (window : Nat)
    (i : Nat)
    (n : Nat)
    (j : Nat) :
    admits window i n j = admits window j n i := by
  rw [Bool.eq_iff_iff, admits_iff, admits_iff]
  omega

/- Which of `n` points are admitted to the point `i`. -/
def admitted
    (window : Int)
    (i : Int)
    (n : Nat) :
    List Bool :=
  (List.range n).map (admits window i n)

/- Keep the items at admitted positions. -/
def keep
    {β : Type}
    (window : Int)
    (i : Int)
    (items : List β) :
    List β :=
  (items.zipIdx.filter fun item =>
    admits window i items.length item.2).map Prod.fst

end Window

end NeighbourInfo

------------------------------------------------------------
-- Nearest Neighbours
------------------------------------------------------------

namespace NeighbourInfo

namespace Separation

variable {α : Type} [Scalar α]

/- The first separation does not rank after the second. -/
def ranksUpTo
    (s : Separation α)
    (t : Separation α) :
    Bool :=
  !Scalar.before t.joint s.joint

/-
  How many of `m` points the `k` nearest are.  A number below
  one tells how many of the furthest are left out; at least
  one point has to remain.
-/
def rank?
    (k : Int)
    (m : Nat) :
    Option Nat :=
  if 1 ≤ k then some k.toNat
  else if 1 ≤ m + k then some (m + k).toNat
  else none

/- A positive number of neighbours is taken as it is. -/
theorem rank?_of_pos
    {k : Nat}
    (hPos : 1 ≤ k)
    (m : Nat) :
    rank? k m = some k := by
  rw [rank?, if_pos (by omega), Int.toNat_natCast]

/-
  The `k` separations of least joint distance.  Among equal
  distances the earlier points are taken.
-/
def nearest
    (k : Nat)
    (others : List (Separation α)) :
    List (Separation α) :=
  (others.mergeSort ranksUpTo).take k

/- The joint distance of the `k`-th nearest neighbour. -/
def radius
    (k : Nat)
    (others : List (Separation α)) :
    α :=
  ((others.mergeSort ranksUpTo).map joint).getD (k - 1) 0

/- No more than `k` neighbours are taken. -/
theorem length_nearest
    (k : Nat)
    (others : List (Separation α)) :
    (nearest k others).length = min k others.length := by
  simp [nearest]

/- The nearest neighbours are among the given points. -/
theorem mem_of_mem_nearest
    {k : Nat}
    {others : List (Separation α)}
    {s : Separation α}
    (hNear : s ∈ nearest k others) :
    s ∈ others :=
  List.mem_mergeSort.mp (List.mem_of_mem_take hNear)

end Separation

end NeighbourInfo
