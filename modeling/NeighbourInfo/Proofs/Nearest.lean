import NeighbourInfo.Counts
import NeighbourInfo.Proofs.Radius

/-
  Choices of the `k` nearest neighbours.

  Key definitions include:
    * `NeighbourInfo.Separation.IsNearest`
    * `NeighbourInfo.Separation.reach`

  Among equal distances it is left open which points are the
  `k` nearest ones.  The facts here hold for every choice, and
  so for the one that is made by sorting.

  This is proven by:
    * `NeighbourInfo.Separation.exists_isNearest`
    * `NeighbourInfo.Separation.IsNearest.reach_eq_radius`
    * `NeighbourInfo.Separation.IsNearest.perm`
-/

------------------------------------------------------------
-- Choices
------------------------------------------------------------

namespace NeighbourInfo

namespace Separation

variable {α : Type} [Scalar α]

/-
  A choice of the `k` nearest of some points, in any order: no
  point left out ranks before a chosen one.
-/
structure IsNearest
    (separation : Nat → Separation α)
    (k : Nat)
    (points : List Nat)
    (chosen : List Nat) :
    Prop where
  nodup : chosen.Nodup
  subset : chosen ⊆ points
  length : chosen.length = k
  ranksUpTo :
    ∀ i ∈ chosen, ∀ j ∈ points, j ∉ chosen →
      Scalar.RanksUpTo (separation i).joint
        (separation j).joint

variable [Scalar.LawfulOrder α]
variable {separation : Nat → Separation α}
variable {k : Nat} {points : List Nat}

/- Sorting makes a choice. -/
theorem exists_isNearest
    (hNodup : points.Nodup)
    (hEnough : k ≤ points.length) :
    ∃ chosen,
      IsNearest separation k points chosen ∧
        chosen.map separation =
          nearest k (points.map separation) := by
  let sorted :=
    points.mergeSort fun i j =>
      (separation i).ranksUpTo (separation j)
  have hPerm : sorted.Perm points :=
    List.mergeSort_perm points _
  have hMap :
      sorted.map separation =
        (points.map separation).mergeSort ranksUpTo :=
    List.map_mergeSort fun _ _ _ _ => rfl
  refine ⟨sorted.take k, ⟨?_, ?_, ?_, ?_⟩, ?_⟩
  · exact (hPerm.nodup_iff.mpr hNodup).sublist
      (List.take_sublist k sorted)
  · intro i hI
    exact hPerm.mem_iff.mp (List.mem_of_mem_take hI)
  · rw [List.length_take, hPerm.length_eq]
    omega
  · intro i hI j hJ hOut
    have hSorted :
        sorted.Pairwise fun i j =>
          Scalar.RanksUpTo (separation i).joint
            (separation j).joint := by
      have hPairwise := pairwise_sorted (points.map separation)
      rwa [← hMap, List.pairwise_map] at hPairwise
    have hRest : j ∈ sorted.drop k := by
      have hMem : j ∈ sorted.take k ++ sorted.drop k := by
        rw [List.take_append_drop]
        exact hPerm.mem_iff.mpr hJ
      rcases List.mem_append.mp hMem with hIn | hRest
      · exact absurd hIn hOut
      · exact hRest
    rw [← List.take_append_drop k sorted,
      List.pairwise_append] at hSorted
    exact hSorted.2.2 i hI j hRest
  · rw [List.map_take, hMap]
    rfl

end Separation

end NeighbourInfo

------------------------------------------------------------
-- Counting Chosen Points
------------------------------------------------------------

namespace NeighbourInfo

namespace Separation

variable {α : Type} [Scalar α]
variable {separation : Nat → Separation α}
variable {k : Nat} {points chosen : List Nat}

/- What holds of all chosen points holds of `k` points. -/
theorem IsNearest.le_countP
    (hNearest : IsNearest separation k points chosen)
    {test : Nat → Bool}
    (hTest : ∀ i ∈ chosen, test i) :
    k ≤ points.countP test := by
  have hSubset : chosen ⊆ points.filter test := by
    intro i hI
    exact
      List.mem_filter.mpr ⟨hNearest.subset hI, hTest i hI⟩
  calc
    k = chosen.length := hNearest.length.symm
    _ ≤ (points.filter test).length :=
      (hNearest.nodup.subperm hSubset).length_le
    _ = points.countP test := List.countP_eq_length_filter.symm

/-
  What holds of chosen points only, and not of all of them,
  holds of fewer than `k` points.
-/
theorem IsNearest.countP_lt
    (hNodup : points.Nodup)
    (hNearest : IsNearest separation k points chosen)
    {test : Nat → Bool}
    (hTest : ∀ j ∈ points, test j → j ∈ chosen)
    {i : Nat}
    (hMem : i ∈ chosen)
    (hNot : ¬ test i) :
    points.countP test < k := by
  have hSubset : i :: points.filter test ⊆ chosen := by
    intro j hJ
    rcases List.mem_cons.mp hJ with rfl | hJ
    · exact hMem
    · rcases List.mem_filter.mp hJ with ⟨hPoint, hHolds⟩
      exact hTest j hPoint hHolds
  have hDistinct : (i :: points.filter test).Nodup := by
    refine List.nodup_cons.mpr ⟨?_, hNodup.filter _⟩
    intro hIn
    exact hNot (List.mem_filter.mp hIn).2
  calc
    points.countP test
      < (i :: points.filter test).length := by
        rw [List.length_cons, List.countP_eq_length_filter]
        exact Nat.lt_succ_self _
    _ ≤ chosen.length := (hDistinct.subperm hSubset).length_le
    _ = k := hNearest.length

/- Where there are enough numbers, only numbers are chosen. -/
theorem IsNearest.hasNumber
    (hNodup : points.Nodup)
    (hNearest : IsNearest separation k points chosen)
    (hEnough :
      k ≤ points.countP fun j => (separation j).HasNumber)
    {i : Nat}
    (hMem : i ∈ chosen) :
    (separation i).HasNumber := by
  by_contra hNone
  have hOnly :
      ∀ j ∈ points, decide (separation j).HasNumber →
        j ∈ chosen := by
    intro j hJ hNumber
    by_contra hOut
    refine hNearest.ranksUpTo i hMem j hJ hOut ?_
    exact
      Scalar.before_iff.mpr
        (Or.inr ⟨of_decide_eq_true hNumber, hNone⟩)
  have hFew :=
    hNearest.countP_lt hNodup hOnly hMem (by simpa using hNone)
  omega

end Separation

end NeighbourInfo

------------------------------------------------------------
-- Reach
------------------------------------------------------------

namespace NeighbourInfo

namespace Separation

variable {α : Type} [Scalar α]

/-
  How far some separations reach: the largest distance in each
  of the variables, which need not belong to the same point.
-/
def reach
    (chosen : List (Separation α)) :
    Separation α :=
  ⟨Scalar.largest (chosen.map (·.x)),
    Scalar.largest (chosen.map (·.y)),
    Scalar.largest (chosen.map (·.z))⟩

/- No distance exceeds another, variable by variable. -/
def IsWithin
    (s : Separation α)
    (t : Separation α) :
    Prop :=
  Scalar.le s.x t.x ∧ Scalar.le s.y t.y ∧ Scalar.le s.z t.z

variable [Scalar.LawfulOrder α]

/- A bound of the reach bounds every joint distance. -/
theorem joint_reach_le_iff
    {chosen : List (Separation α)}
    (hNonempty : chosen ≠ [])
    {e : α} :
    Scalar.le (reach chosen).joint e ↔
      ∀ s ∈ chosen, Scalar.le s.joint e := by
  have hMap :
      ∀ f : Separation α → α, chosen.map f ≠ [] := by
    intro f
    simpa using hNonempty
  simp only [joint_le_iff, reach,
    Scalar.largest_le_iff (hMap _), List.forall_mem_map]
  constructor
  · rintro ⟨hX, hY, hZ⟩ s hMem
    exact ⟨hX s hMem, hY s hMem, hZ s hMem⟩
  · intro hAll
    exact
      ⟨fun s hMem => (hAll s hMem).1,
        fun s hMem => (hAll s hMem).2.1,
        fun s hMem => (hAll s hMem).2.2⟩

/- Numbers reach as far as a number. -/
theorem hasNumber_reach
    {chosen : List (Separation α)}
    (hNonempty : chosen ≠ [])
    (hNumbers : ∀ s ∈ chosen, s.HasNumber) :
    (reach chosen).HasNumber := by
  have hLargest :
      ∀ f : Separation α → α,
        (∀ s ∈ chosen, Scalar.IsNumber (f s)) →
          Scalar.IsNumber (Scalar.largest (chosen.map f)) := by
    intro f hF
    have hMap : chosen.map f ≠ [] := by simpa using hNonempty
    rcases List.mem_map.mp (Scalar.largest_mem hMap) with
      ⟨s, hMem, hEq⟩
    rw [← hEq]
    exact hF s hMem
  exact
    hasNumber_iff.mpr
      ⟨hLargest _ fun s hMem =>
          (hasNumber_iff.mp (hNumbers s hMem)).1,
        hLargest _ fun s hMem =>
          (hasNumber_iff.mp (hNumbers s hMem)).2.1,
        hLargest _ fun s hMem =>
          (hasNumber_iff.mp (hNumbers s hMem)).2.2⟩

/- One of some numbers is as far away as they reach. -/
theorem exists_reach_le
    {chosen : List (Separation α)}
    (hNonempty : chosen ≠ [])
    (hNumbers : ∀ s ∈ chosen, s.HasNumber) :
    ∃ s ∈ chosen,
      Scalar.le (reach chosen).joint s.joint := by
  have hJoints : chosen.map joint ≠ [] := by
    simpa using hNonempty
  rcases List.mem_map.mp (Scalar.largest_mem hJoints) with
    ⟨s, hS, hEq⟩
  refine ⟨s, hS, (joint_reach_le_iff hNonempty).mpr ?_⟩
  intro t hT
  rw [hEq]
  exact
    Scalar.le_largest (List.forall_mem_map.mpr hNumbers)
      (List.mem_map_of_mem hT)

/- Each of some numbers is within their reach. -/
theorem isWithin_reach
    {chosen : List (Separation α)}
    (hNumbers : ∀ s ∈ chosen, s.HasNumber)
    {s : Separation α}
    (hMem : s ∈ chosen) :
    s.IsWithin (reach chosen) := by
  have hLargest :
      ∀ f : Separation α → α,
        (∀ t ∈ chosen, Scalar.IsNumber (f t)) →
          Scalar.le (f s)
            (Scalar.largest (chosen.map f)) := by
    intro f hF
    exact
      Scalar.le_largest (List.forall_mem_map.mpr hF)
        (List.mem_map_of_mem hMem)
  exact
    ⟨hLargest _ fun t hT =>
        (hasNumber_iff.mp (hNumbers t hT)).1,
      hLargest _ fun t hT =>
        (hasNumber_iff.mp (hNumbers t hT)).2.1,
      hLargest _ fun t hT =>
        (hasNumber_iff.mp (hNumbers t hT)).2.2⟩

/- What is within another is no further in the joint space. -/
theorem IsWithin.joint_le
    {s t : Separation α}
    (hWithin : s.IsWithin t)
    (hNumber : t.HasNumber) :
    Scalar.le s.joint t.joint := by
  rcases hWithin with ⟨hX, hY, hZ⟩
  have hSelf : Scalar.le t.joint t.joint :=
    Scalar.le_iff.mpr ⟨hNumber, hNumber, Scalar.lt_irrefl _⟩
  rcases joint_le_iff.mp hSelf with ⟨hTX, hTY, hTZ⟩
  exact
    joint_le_iff.mpr
      ⟨Scalar.le_trans hX hTX, Scalar.le_trans hY hTY,
        Scalar.le_trans hZ hTZ⟩

end Separation

end NeighbourInfo

------------------------------------------------------------
-- The Radius Of A Choice
------------------------------------------------------------

namespace NeighbourInfo

namespace Separation

variable {α : Type} [Scalar α]
variable {separation : Nat → Separation α}
variable {k : Nat} {points chosen : List Nat}

/- Some point is chosen, and all that are have a number. -/
theorem IsNearest.forall_hasNumber
    (hPos : 1 ≤ k)
    (hNodup : points.Nodup)
    (hNearest : IsNearest separation k points chosen)
    (hEnough :
      k ≤ points.countP fun j => (separation j).HasNumber) :
    chosen.map separation ≠ [] ∧
      ∀ s ∈ chosen.map separation, s.HasNumber := by
  constructor
  · intro hNone
    have hLength := hNearest.length
    rw [List.map_eq_nil_iff.mp hNone] at hLength
    exact absurd hLength (by simpa using Nat.ne_of_lt hPos)
  · intro s hS
    rcases List.mem_map.mp hS with ⟨i, hI, rfl⟩
    exact hNearest.hasNumber hNodup hEnough hI

variable [Scalar.LawfulOrder α]

/-
  Whichever the `k` nearest points are, their reach in the
  joint space is a radius: the three furthest distances may
  belong to different points, but the largest of them does
  not exceed the furthest joint distance.
-/
theorem IsNearest.isRadius_reach
    (hPos : 1 ≤ k)
    (hNodup : points.Nodup)
    (hNearest : IsNearest separation k points chosen)
    (hEnough :
      k ≤ points.countP fun j => (separation j).HasNumber) :
    IsRadius k (points.map separation)
      (reach (chosen.map separation)).joint := by
  rcases hNearest.forall_hasNumber hPos hNodup hEnough with
    ⟨hNonempty, hNumbers⟩
  have hReach := hasNumber_reach hNonempty hNumbers
  have hUpTo :
      ∀ s ∈ chosen.map separation,
        Scalar.le s.joint
          (reach (chosen.map separation)).joint :=
    (joint_reach_le_iff hNonempty).mp
      (Scalar.le_iff.mpr
        ⟨hReach, hReach, Scalar.lt_irrefl _⟩)
  constructor
  · rw [List.countP_map]
    -- A point within the reach is chosen, and the furthest of
    -- the chosen points is not within it.
    have hOnly :
        ∀ j ∈ points,
          Scalar.lt (separation j).joint
            (reach (chosen.map separation)).joint →
              j ∈ chosen := by
      intro j hJ hLess
      by_contra hOut
      have hBelow :
          Scalar.le (reach (chosen.map separation)).joint
            (separation j).joint := by
        refine (joint_reach_le_iff hNonempty).mpr ?_
        intro s hS
        rcases List.mem_map.mp hS with ⟨i, hI, rfl⟩
        exact
          Scalar.le_of_ranksUpTo
            (hNearest.ranksUpTo i hI j hJ hOut)
            (Scalar.isNumber_of_lt hLess).1
      exact Scalar.not_lt_of_le hBelow hLess
    rcases exists_reach_le hNonempty hNumbers with
      ⟨s, hS, hFurthest⟩
    rcases List.mem_map.mp hS with ⟨i, hI, rfl⟩
    exact
      hNearest.countP_lt hNodup hOnly hI
        (Scalar.not_lt_of_le hFurthest)
  · rw [List.countP_map]
    exact
      hNearest.le_countP fun i hI =>
        hUpTo _ (List.mem_map_of_mem hI)

/- It is the radius that is found by sorting. -/
theorem IsNearest.reach_eq_radius
    (hPos : 1 ≤ k)
    (hNodup : points.Nodup)
    (hNearest : IsNearest separation k points chosen)
    (hEnough :
      k ≤ points.countP fun j => (separation j).HasNumber) :
    Scalar.eq (reach (chosen.map separation)).joint
      (radius k (points.map separation)) := by
  have hSorted :
      IsRadius k (points.map separation)
        (radius k (points.map separation)) := by
    refine isRadius_radius hPos ?_
    rwa [List.countP_map]
  exact
    (hNearest.isRadius_reach hPos hNodup hEnough).eq hPos
      hSorted

/-
  If no more than `k` points are up to the radius, these are
  the ones that are chosen.
-/
theorem IsNearest.perm_filter
    (hPos : 1 ≤ k)
    (hNodup : points.Nodup)
    (hNearest : IsNearest separation k points chosen)
    (hEnough :
      k ≤ points.countP fun j => (separation j).HasNumber)
    (hFew :
      ((points.map separation).countP fun s =>
        Scalar.le s.joint
          (radius k (points.map separation))) ≤ k) :
    chosen.Perm
      (points.filter fun j =>
        Scalar.le (separation j).joint
          (radius k (points.map separation))) := by
  rcases hNearest.forall_hasNumber hPos hNodup hEnough with
    ⟨hNonempty, hNumbers⟩
  have hRadius :=
    hNearest.reach_eq_radius hPos hNodup hEnough
  have hUpTo :=
    (joint_reach_le_iff hNonempty).mp
      (Scalar.le_of_eq hRadius)
  have hSubset :
      chosen ⊆
        points.filter fun j =>
          Scalar.le (separation j).joint
            (radius k (points.map separation)) := by
    intro i hI
    exact
      List.mem_filter.mpr
        ⟨hNearest.subset hI,
          hUpTo _ (List.mem_map_of_mem hI)⟩
  refine
    (hNearest.nodup.subperm hSubset).perm_of_length_le ?_
  rw [hNearest.length, ← List.countP_eq_length_filter]
  rwa [List.countP_map] at hFew

/- Then there is but one choice, up to the order. -/
theorem IsNearest.perm
    {chosen' : List Nat}
    (hPos : 1 ≤ k)
    (hNodup : points.Nodup)
    (hFirst : IsNearest separation k points chosen)
    (hSecond : IsNearest separation k points chosen')
    (hEnough :
      k ≤ points.countP fun j => (separation j).HasNumber)
    (hFew :
      ((points.map separation).countP fun s =>
        Scalar.le s.joint
          (radius k (points.map separation))) ≤ k) :
    chosen.Perm chosen' :=
  (hFirst.perm_filter hPos hNodup hEnough hFew).trans
    (hSecond.perm_filter hPos hNodup hEnough hFew).symm

end Separation

end NeighbourInfo
