import NeighbourInfo.Separation

/-
  Counts of the points near a point, in its marginal spaces.

  Key definitions include:
    * `NeighbourInfo.Counts`
    * `NeighbourInfo.Counts.inside`
    * `NeighbourInfo.Counts.within`
    * `NeighbourInfo.Counts.ofSeparations`

  The first algorithm takes the joint distance of the `k`-th
  neighbour as one radius and counts the points strictly
  inside.  The second takes, in each variable, the largest
  distance among the `k` neighbours and counts the points on
  the radius too.  Where `k` is below one it leaves out that
  many of the furthest points instead; the second algorithm
  cannot do with none at all.
-/

------------------------------------------------------------
-- Counting
------------------------------------------------------------

namespace NeighbourInfo

/- The points near a point in (x, z), in (y, z) and in z. -/
structure Counts where
  xz : Nat
  yz : Nat
  z : Nat
deriving DecidableEq, Repr, Inhabited

namespace Counts

variable {α : Type} [Scalar α]

/- Count the points that are near in z, and in x or y too. -/
def ofTests
    (nearX : α → Bool)
    (nearY : α → Bool)
    (nearZ : α → Bool)
    (others : List (Separation α)) :
    Counts :=
  ⟨others.countP fun s => nearZ s.z && nearX s.x,
    others.countP fun s => nearZ s.z && nearY s.y,
    others.countP fun s => nearZ s.z⟩

/- Count the points strictly inside one radius. -/
def inside
    (radius : α)
    (others : List (Separation α)) :
    Counts :=
  ofTests (Scalar.lt · radius) (Scalar.lt · radius)
    (Scalar.lt · radius) others

/-
  Count the points no further than the furthest of the chosen
  ones, in each variable.
-/
def within
    (chosen : List (Separation α))
    (others : List (Separation α)) :
    Counts :=
  let reachX := Scalar.largest (chosen.map (·.x))
  let reachY := Scalar.largest (chosen.map (·.y))
  let reachZ := Scalar.largest (chosen.map (·.z))
  ofTests (Scalar.le · reachX) (Scalar.le · reachY)
    (Scalar.le · reachZ) others

/- What is near in (x, z) is near in z. -/
omit [Scalar α] in
theorem xz_ofTests_le
    (nearX : α → Bool)
    (nearY : α → Bool)
    (nearZ : α → Bool)
    (others : List (Separation α)) :
    (ofTests nearX nearY nearZ others).xz ≤
      (ofTests nearX nearY nearZ others).z :=
  List.countP_mono_left (by
    intro s _ hNear
    exact (Bool.and_eq_true_iff.mp hNear).1)

/- What is near in (y, z) is near in z. -/
omit [Scalar α] in
theorem yz_ofTests_le
    (nearX : α → Bool)
    (nearY : α → Bool)
    (nearZ : α → Bool)
    (others : List (Separation α)) :
    (ofTests nearX nearY nearZ others).yz ≤
      (ofTests nearX nearY nearZ others).z :=
  List.countP_mono_left (by
    intro s _ hNear
    exact (Bool.and_eq_true_iff.mp hNear).1)

end Counts

end NeighbourInfo

------------------------------------------------------------
-- Algorithms
------------------------------------------------------------

namespace NeighbourInfo

/- The two ways of counting. -/
inductive Algorithm where
  | first
  | second
deriving DecidableEq, Repr, Inhabited

namespace Algorithm

/- The algorithm that a value numbers: one or two. -/
def ofValue?
    {α : Type} [Scalar α]
    (v : Value α) :
    Option Algorithm :=
  if v.equalsInt 1 then some .first
  else if v.equalsInt 2 then some .second
  else none

end Algorithm

namespace Counts

variable {α : Type} [Scalar α]

/- The reason why there is no radius of a rank. -/
def noRadius
    (k : Int)
    (others : List (Separation α)) :
    Error α :=
  if others.isEmpty then .outOfBounds (k - 1) 0
  else .noSuchRank

/- The counts of a point among its admitted points. -/
def ofSeparations
    (algorithm : Algorithm)
    (k : Int)
    (others : List (Separation α)) :
    Except (Error α) Counts :=
  if k ≤ -0x8000000000000000 then .error .wrongKind
  else
    match algorithm, Separation.rank? k others.length with
    | .first, some rank =>
        .ok (inside (Separation.radius rank others) others)
    | .first, none => .error (noRadius k others)
    | .second, some rank =>
        if k = 0 then .error .noSuchRank
        else
          .ok (within (Separation.nearest rank others) others)
    | .second, none => .error .noSuchRank

/- The first algorithm, with a positive number. -/
theorem ofSeparations_first
    {k : Nat}
    (hPos : 1 ≤ k)
    (others : List (Separation α)) :
    ofSeparations .first k others =
      .ok (inside (Separation.radius k others) others) := by
  simp only [ofSeparations, Separation.rank?_of_pos hPos]
  exact if_neg (by omega)

/- The second algorithm, with a positive number. -/
theorem ofSeparations_second
    {k : Nat}
    (hPos : 1 ≤ k)
    (others : List (Separation α)) :
    ofSeparations .second k others =
      .ok (within (Separation.nearest k others) others) := by
  simp only [ofSeparations, Separation.rank?_of_pos hPos]
  rw [if_neg (by omega), if_neg (by omega)]

end Counts

end NeighbourInfo
