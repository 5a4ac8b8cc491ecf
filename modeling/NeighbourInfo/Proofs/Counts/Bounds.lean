import NeighbourInfo.Proofs.Counts.Inside
import NeighbourInfo.Proofs.Window

/-
  Bounds of the counts.

  Key definitions include:
    * `NeighbourInfo.Algorithm.leastCount`
    * `NeighbourInfo.Counts.IsBetween`
    * `NeighbourInfo.Observations.HaveNumbers`
    * `NeighbourInfo.Observations.AreApart`

  No count is greater than the number of other points.  Where
  the `k`-th point is further away than the one before it, the
  first algorithm counts all before it; the second one counts
  all `k` of them in any case.

  This is proven by:
    * `NeighbourInfo.Counts.isBetween_inside`
    * `NeighbourInfo.Observations.isBetween_within`
    * `NeighbourInfo.Observations.isBetween_pointCounts`
-/

------------------------------------------------------------
-- Bounds Of Counts
------------------------------------------------------------

namespace NeighbourInfo

/- The points that are counted in (x, z) and in (y, z). -/
def Algorithm.leastCount
    (algorithm : Algorithm)
    (k : Nat) :
    Nat :=
  match algorithm with
  | .first => k - 1
  | .second => k

namespace Counts

/-
  Both of (x, z) and (y, z) hold at least some points, and no
  more than z does, which does not hold too many.
-/
structure IsBetween
    (least : Nat)
    (most : Nat)
    (c : Counts) :
    Prop where
  le_xz : least ≤ c.xz
  le_yz : least ≤ c.yz
  xz_le : c.xz ≤ c.z
  yz_le : c.yz ≤ c.z
  z_le : c.z ≤ most

variable {α : Type} [Scalar α] [Scalar.LawfulOrder α]
variable {others : List (Separation α)} {k : Nat}

/- All points before the radius are strictly inside of it. -/
theorem isBetween_inside
    (hPos : 1 ≤ k)
    (hEnough : k ≤ others.countP fun s => s.HasNumber)
    (hApart :
      k = 1 ∨
        Scalar.lt (Separation.radius (k - 1) others)
          (Separation.radius k others)) :
    (inside (Separation.radius k others) others).IsBetween
      (k - 1) others.length := by
  have hAll :=
    (Separation.countP_lt_radius_eq_iff hPos hEnough).mpr
      hApart
  have hCounted :=
    countP_joint_le_inside (Separation.radius k others) others
  rw [hAll] at hCounted
  exact
    { le_xz := hCounted.1
      le_yz := hCounted.2
      xz_le := xz_ofTests_le _ _ _ _
      yz_le := yz_ofTests_le _ _ _ _
      z_le := z_ofTests_le _ _ _ _ }

end Counts

namespace Observations

variable {α : Type} [Scalar α]

/- The distances between the points are numbers. -/
def HaveNumbers
    (norm : Norm)
    (window : Nat)
    (data : Observations α) :
    Prop :=
  ∀ i < data.size,
    ∀ j ∈ Window.admissible window i data.size,
      (data.separation norm i j).HasNumber

/-
  The `k`-th point from a point is further away than the one
  before it, unless there is none before it.
-/
def AreApart
    (norm : Norm)
    (window : Nat)
    (k : Nat)
    (data : Observations α) :
    Prop :=
  ∀ i < data.size,
    let others := data.others norm window i
    k = 1 ∨
      Scalar.lt (Separation.radius (k - 1) others)
        (Separation.radius k others)

variable {data : Observations α} {i : Nat}
variable {norm : Norm} {window k : Nat}

theorem length_others_le
    (hPoint : i < data.size) :
    (data.others norm window i).length ≤ data.size - 1 := by
  rw [length_others, Window.length_admissible hPoint]
  omega

variable [Scalar.LawfulOrder α]

/- All chosen points are counted, whichever are chosen. -/
theorem isBetween_within
    (hPoint : i < data.size)
    (hPos : 1 ≤ k)
    (hNumbers : data.HaveNumbers norm window)
    {chosen : List Nat}
    (hNearest :
      Separation.IsNearest (data.separation norm i) k
        (Window.admissible window i data.size) chosen) :
    (Counts.within (chosen.map (data.separation norm i))
        (data.others norm window i)).IsBetween k
      (data.size - 1) := by
  have hNodup := Window.nodup_admissible window i data.size
  have hEnough :
      k ≤ (Window.admissible window i data.size).length := by
    rw [← hNearest.length]
    exact
      (List.subperm_of_subset hNearest.nodup
        hNearest.subset).length_le
  have hNumbered :=
    le_countP_hasNumber hEnough (hNumbers i hPoint)
  rw [others, List.countP_map] at hNumbered
  rcases hNearest.le_within hPos hNodup hNumbered with
    ⟨hXZ, hYZ⟩
  exact
    { le_xz := hXZ
      le_yz := hYZ
      xz_le := Counts.xz_ofTests_le _ _ _ _
      yz_le := Counts.yz_ofTests_le _ _ _ _
      z_le :=
        Nat.le_trans (Counts.z_ofTests_le _ _ _ _)
          (length_others_le hPoint) }

/-
  The counts of a point.  Only the first algorithm needs the
  `k`-th point to be further away than the one before it.
-/
theorem isBetween_pointCounts
    {algorithm : Algorithm}
    (hPoint : i < data.size)
    (hPos : 1 ≤ k)
    (hEnough :
      k ≤ (Window.admissible window i data.size).length)
    (hNumbers : data.HaveNumbers norm window)
    (hApart :
      algorithm = .first → data.AreApart norm window k) :
    (data.pointCounts algorithm norm window k i).IsBetween
      (algorithm.leastCount k) (data.size - 1) := by
  cases algorithm with
  | first =>
      have hNumbered :=
        le_countP_hasNumber hEnough (hNumbers i hPoint)
      have hBetween :=
        Counts.isBetween_inside hPos hNumbered
          (hApart rfl i hPoint)
      exact
        { hBetween with
          z_le :=
            hBetween.z_le.trans (length_others_le hPoint) }
  | second =>
      have hNodup :=
        Window.nodup_admissible window i data.size
      let points := Window.admissible window i data.size
      let separation := data.separation norm i
      have hChoice :
          ∃ chosen,
            Separation.IsNearest separation k points chosen ∧
              chosen.map separation =
                Separation.nearest k
                  (points.map separation) :=
        Separation.exists_isNearest hNodup hEnough
      rcases hChoice with ⟨chosen, hNearest, hSorted⟩
      have hBetween :=
        isBetween_within hPoint hPos hNumbers hNearest
      rw [hSorted] at hBetween
      exact hBetween

end Observations

end NeighbourInfo
