import NeighbourInfo.Proofs.Scalar.Order
import NeighbourInfo.Separation

/-
  The radius of the `k` nearest neighbours.

  Key definitions include:
    * `NeighbourInfo.Separation.HasNumber`
    * `NeighbourInfo.Separation.IsRadius`

  The radius is found by sorting.  Here it is described by
  counting instead: fewer than `k` of the joint distances are
  less than it, and at least `k` are up to it.

  This is proven by:
    * `NeighbourInfo.Separation.isRadius_radius`
    * `NeighbourInfo.Separation.IsRadius.le`
    * `NeighbourInfo.Separation.IsRadius.eq`
    * `NeighbourInfo.Separation.countP_lt_radius_eq_iff`
    * `NeighbourInfo.Separation.exists_joint_eq_radius`
-/

------------------------------------------------------------
-- Joint Distances
------------------------------------------------------------

namespace NeighbourInfo

namespace Separation

variable {α : Type} [Scalar α]

/- The joint distance is a number. -/
def HasNumber
    (s : Separation α) :
    Prop :=
  Scalar.IsNumber s.joint

instance
    (s : Separation α) :
    Decidable s.HasNumber :=
  inferInstanceAs (Decidable (Scalar.IsNumber s.joint))

variable [Scalar.LawfulOrder α]

/- A bound of the joint distance bounds all three. -/
theorem joint_le_iff
    {s : Separation α}
    {e : α} :
    Scalar.le s.joint e ↔
      Scalar.le s.x e ∧ Scalar.le s.y e ∧ Scalar.le s.z e := by
  rw [joint, Scalar.larger_le_iff, Scalar.larger_le_iff,
    and_assoc]

/- So does a bound that is not reached. -/
theorem joint_lt_iff
    {s : Separation α}
    {e : α} :
    Scalar.lt s.joint e ↔
      Scalar.lt s.x e ∧ Scalar.lt s.y e ∧ Scalar.lt s.z e := by
  rw [joint, Scalar.larger_lt_iff, Scalar.larger_lt_iff,
    and_assoc]

/- The joint distance is a number if all three are. -/
theorem hasNumber_iff
    {s : Separation α} :
    s.HasNumber ↔
      Scalar.IsNumber s.x ∧ Scalar.IsNumber s.y ∧
        Scalar.IsNumber s.z := by
  rw [HasNumber, joint, Scalar.isNumber_larger_iff,
    Scalar.isNumber_larger_iff, and_assoc]

end Separation

end NeighbourInfo

------------------------------------------------------------
-- Radii
------------------------------------------------------------

namespace NeighbourInfo

namespace Separation

variable {α : Type} [Scalar α]

/-
  A radius of the `k` nearest: fewer than `k` of the joint
  distances are less, at least `k` are up to it.
-/
structure IsRadius
    (k : Nat)
    (others : List (Separation α))
    (e : α) :
    Prop where
  few_less :
    (others.countP fun s => Scalar.lt s.joint e) < k
  enough_upTo :
    k ≤ others.countP fun s => Scalar.le s.joint e

/- A radius of numbered separations, counting the numbers. -/
theorem isRadius_map_iff
    {separation : Nat → Separation α}
    {k : Nat}
    {points : List Nat}
    {e : α} :
    IsRadius k (points.map separation) e ↔
      (points.countP fun j =>
          Scalar.lt (separation j).joint e) < k ∧
        k ≤ points.countP fun j =>
          Scalar.le (separation j).joint e := by
  constructor
  · rintro ⟨hFew, hEnough⟩
    rw [List.countP_map] at hFew hEnough
    exact ⟨hFew, hEnough⟩
  · rintro ⟨hFew, hEnough⟩
    constructor
    · rw [List.countP_map]
      exact hFew
    · rw [List.countP_map]
      exact hEnough

variable [Scalar.LawfulOrder α]
variable {k k' : Nat} {others others' : List (Separation α)}
variable {e e' : α}

/- A radius that some distances are up to is a number. -/
theorem IsRadius.isNumber
    (hPos : 1 ≤ k)
    (hRadius : IsRadius k others e) :
    Scalar.IsNumber e := by
  have hSome :
      0 < others.countP fun s => Scalar.le s.joint e :=
    Nat.lt_of_lt_of_le hPos hRadius.enough_upTo
  rcases List.countP_pos_iff.mp hSome with ⟨s, -, hLe⟩
  exact (Scalar.le_iff.mp hLe).2.1

/-
  More neighbours have no smaller radius, nor have neighbours
  among fewer points.
-/
theorem IsRadius.le
    (hPos : 1 ≤ k)
    (hMore : k ≤ k')
    (hFewer : others'.Sublist others)
    (hFirst : IsRadius k others e)
    (hSecond : IsRadius k' others' e') :
    Scalar.le e e' := by
  have hNumber := hFirst.isNumber hPos
  have hNumber' := hSecond.isNumber (hPos.trans hMore)
  refine Scalar.le_iff.mpr ⟨hNumber, hNumber', ?_⟩
  -- If the second radius were the smaller one, the distances
  -- up to it would all be less than the first one.
  intro hLess
  have hUpTo :
      (others'.countP fun s => Scalar.le s.joint e') ≤
        others.countP fun s => Scalar.lt s.joint e := by
    calc
      (others'.countP fun s => Scalar.le s.joint e')
        ≤ others.countP fun s => Scalar.le s.joint e' :=
          hFewer.countP_le
      _ ≤ others.countP fun s => Scalar.lt s.joint e :=
          List.countP_mono_left fun s _ hLe =>
            Scalar.lt_of_le_of_lt hLe hLess
  have hFew := hFirst.few_less
  have hEnough := hSecond.enough_upTo
  omega

/- Two radii of the same number of neighbours are equal. -/
theorem IsRadius.eq
    (hPos : 1 ≤ k)
    (hFirst : IsRadius k others e)
    (hSecond : IsRadius k others e') :
    Scalar.eq e e' :=
  Scalar.eq_of_le_of_le
    (hFirst.le hPos le_rfl (List.Sublist.refl _) hSecond)
    (hSecond.le hPos le_rfl (List.Sublist.refl _) hFirst)

end Separation

end NeighbourInfo

------------------------------------------------------------
-- Sorted Separations
------------------------------------------------------------

namespace NeighbourInfo

namespace Separation

variable {α : Type} [Scalar α]

theorem ranksUpTo_iff
    {s t : Separation α} :
    s.ranksUpTo t ↔ Scalar.RanksUpTo s.joint t.joint := by
  simp [ranksUpTo, Scalar.RanksUpTo]

/- The radius is the joint distance at a place of the order. -/
theorem radius_eq_joint
    {k : Nat}
    {others : List (Separation α)}
    (hRank : k - 1 < (others.mergeSort ranksUpTo).length) :
    radius k others =
      ((others.mergeSort ranksUpTo)[k - 1]).joint := by
  simp [radius, List.getElem?_eq_getElem hRank]

variable [Scalar.LawfulOrder α]

/- Sorted separations rank in their order. -/
theorem pairwise_sorted
    (others : List (Separation α)) :
    (others.mergeSort ranksUpTo).Pairwise fun s t =>
      Scalar.RanksUpTo s.joint t.joint := by
  have hTrans :
      ∀ s t u : Separation α, s.ranksUpTo t →
        t.ranksUpTo u → s.ranksUpTo u := by
    intro s t u hST hTU
    rw [ranksUpTo_iff] at *
    exact hST.trans hTU
  have hTotal :
      ∀ s t : Separation α, s.ranksUpTo t || t.ranksUpTo s := by
    intro s t
    rw [Bool.or_eq_true, ranksUpTo_iff, ranksUpTo_iff]
    exact Scalar.RanksUpTo.total _ _
  exact
    (List.pairwise_mergeSort hTrans hTotal others).imp
      ranksUpTo_iff.mp

/-
  The sorted separations around the one whose joint distance
  is the radius.
-/
theorem exists_sorted_split
    {k : Nat}
    (hPos : 1 ≤ k)
    {others : List (Separation α)}
    (hEnough : k ≤ others.length) :
    ∃ near far : List (Separation α), ∃ s : Separation α,
      others.mergeSort ranksUpTo = near ++ s :: far ∧
        near.length + 1 = k ∧ radius k others = s.joint ∧
        (∀ t ∈ near, Scalar.RanksUpTo t.joint s.joint) ∧
        ∀ t ∈ far, Scalar.RanksUpTo s.joint t.joint := by
  let sorted := others.mergeSort ranksUpTo
  have hLength : sorted.length = others.length :=
    List.length_mergeSort others
  have hAt : k - 1 < sorted.length := by omega
  have hSplit :
      sorted =
        sorted.take (k - 1) ++
          sorted[k - 1] :: sorted.drop (k - 1 + 1) := by
    rw [← List.drop_eq_getElem_cons hAt,
      List.take_append_drop]
  have hSorted := pairwise_sorted others
  change sorted.Pairwise _ at hSorted
  rw [hSplit, List.pairwise_append, List.pairwise_cons]
    at hSorted
  rcases hSorted with ⟨-, ⟨hFar, -⟩, hNear⟩
  refine
    ⟨sorted.take (k - 1), sorted.drop (k - 1 + 1),
      sorted[k - 1], hSplit, ?_, radius_eq_joint hAt, ?_, hFar⟩
  · rw [List.length_take]
    omega
  · intro t hT
    exact hNear t hT sorted[k - 1] List.mem_cons_self

/-
  If there are enough numbers, the radius and all distances
  before it are numbers.
-/
theorem exists_sorted_eq
    {k : Nat}
    (hPos : 1 ≤ k)
    {others : List (Separation α)}
    (hEnough : k ≤ others.countP fun s => s.HasNumber) :
    ∃ near far : List (Separation α), ∃ s : Separation α,
      others.mergeSort ranksUpTo = near ++ s :: far ∧
        near.length + 1 = k ∧ radius k others = s.joint ∧
        s.HasNumber ∧
        (∀ t ∈ near, Scalar.le t.joint s.joint) ∧
        ∀ t ∈ far, Scalar.RanksUpTo s.joint t.joint := by
  rcases
      exists_sorted_split hPos
        (Nat.le_trans hEnough List.countP_le_length) with
    ⟨near, far, s, hSorted, hLength, hRadius, hNear, hFar⟩
  have hNumber : s.HasNumber := by
    by_contra hNone
    have hFarNone :
        (far.countP fun t => decide t.HasNumber) = 0 := by
      rw [List.countP_eq_zero]
      intro t hT
      rw [decide_eq_true_iff]
      intro hNumber
      exact
        hFar t hT (Scalar.before_iff.mpr (Or.inr ⟨hNumber, hNone⟩))
    have hNearFew :
        (near.countP fun t => decide t.HasNumber) ≤
          near.length := List.countP_le_length
    have hPerm := List.mergeSort_perm others ranksUpTo
    rw [← hPerm.countP_eq, hSorted, List.countP_append,
      List.countP_cons, if_neg (by simpa using hNone),
      hFarNone] at hEnough
    omega
  refine
    ⟨near, far, s, hSorted, hLength, hRadius, hNumber, ?_, hFar⟩
  intro t hT
  exact Scalar.le_of_ranksUpTo (hNear t hT) hNumber

end Separation

end NeighbourInfo

------------------------------------------------------------
-- The Radius By Counting
------------------------------------------------------------

namespace NeighbourInfo

namespace Separation

variable {α : Type} [Scalar α] [Scalar.LawfulOrder α]
variable {k : Nat} {others : List (Separation α)}

/-
  Fewer than `k` distances are less than the radius, which may
  be no number here: nothing is less than that.
-/
theorem countP_lt_radius_lt
    (hPos : 1 ≤ k)
    (hEnough : k ≤ others.length) :
    (others.countP fun s =>
      Scalar.lt s.joint (radius k others)) < k := by
  rcases exists_sorted_split hPos hEnough with
    ⟨near, far, s, hSorted, hLength, hRadius, -, hFar⟩
  have hPerm := List.mergeSort_perm others ranksUpTo
  rw [hRadius, ← hPerm.countP_eq, hSorted,
    List.countP_append, List.countP_cons,
    if_neg (Scalar.lt_irrefl s.joint)]
  have hNone :
      (far.countP fun t => Scalar.lt t.joint s.joint) = 0 := by
    rw [List.countP_eq_zero]
    intro t hT hLess
    exact hFar t hT (Scalar.before_iff.mpr (Or.inl hLess))
  have hFew :
      (near.countP fun t => Scalar.lt t.joint s.joint) ≤
        near.length := List.countP_le_length
  omega

/- The radius is one in the sense of counting. -/
theorem isRadius_radius
    (hPos : 1 ≤ k)
    (hEnough : k ≤ others.countP fun s => s.HasNumber) :
    IsRadius k others (radius k others) := by
  refine
    ⟨countP_lt_radius_lt hPos
      (hEnough.trans List.countP_le_length), ?_⟩
  rcases exists_sorted_eq hPos hEnough with
    ⟨near, far, s, hSorted, hLength, hRadius, hNumber, hNear,
     -⟩
  have hPerm := List.mergeSort_perm others ranksUpTo
  have hSelf : Scalar.le s.joint s.joint :=
    Scalar.le_iff.mpr
      ⟨hNumber, hNumber, Scalar.lt_irrefl _⟩
  rw [hRadius, ← hPerm.countP_eq, hSorted,
    List.countP_append, List.countP_cons, if_pos hSelf]
  have hAll :
      (near.countP fun t => Scalar.le t.joint s.joint) =
        near.length := List.countP_eq_length.mpr hNear
  omega

/-
  As many distances as can be are less than the radius just if
  the distance before it is.
-/
theorem countP_lt_radius_eq_iff
    (hPos : 1 ≤ k)
    (hEnough : k ≤ others.countP fun s => s.HasNumber) :
    (others.countP fun s =>
        Scalar.lt s.joint (radius k others)) = k - 1 ↔
      k = 1 ∨
        Scalar.lt (radius (k - 1) others)
          (radius k others) := by
  have hRadius := isRadius_radius hPos hEnough
  have hFew := hRadius.few_less
  by_cases hOne : k = 1
  · omega
  have hPos' : 1 ≤ k - 1 := by omega
  have hRadius' : IsRadius (k - 1) others _ :=
    isRadius_radius hPos' (by omega)
  constructor
  · intro hAll
    right
    by_contra hNotLess
    have hBack :
        Scalar.le (radius k others) (radius (k - 1) others) :=
      Scalar.le_iff.mpr
        ⟨hRadius.isNumber hPos, hRadius'.isNumber hPos',
          hNotLess⟩
    have hFewer :
        (others.countP fun s =>
            Scalar.lt s.joint (radius k others)) ≤
          others.countP fun s =>
            Scalar.lt s.joint (radius (k - 1) others) :=
      List.countP_mono_left fun s _ hLess =>
        Scalar.lt_of_lt_of_le hLess hBack
    have hFew' := hRadius'.few_less
    omega
  · intro hApart
    have hLess := hApart.resolve_left hOne
    have hMore :
        (others.countP fun s =>
            Scalar.le s.joint (radius (k - 1) others)) ≤
          others.countP fun s =>
            Scalar.lt s.joint (radius k others) :=
      List.countP_mono_left fun s _ hUpTo =>
        Scalar.lt_of_le_of_lt hUpTo hLess
    have hEnough' := hRadius'.enough_upTo
    omega

/- The radius is a joint distance. -/
theorem exists_joint_eq_radius
    (hPos : 1 ≤ k)
    (hEnough : k ≤ others.countP fun s => s.HasNumber) :
    ∃ s ∈ others, s.HasNumber ∧ s.joint = radius k others := by
  rcases exists_sorted_eq hPos hEnough with
    ⟨near, far, s, hSorted, -, hRadius, hNumber, -, -⟩
  have hMem : s ∈ others.mergeSort ranksUpTo := by
    rw [hSorted]
    exact List.mem_append_right near List.mem_cons_self
  exact
    ⟨s, List.mem_mergeSort.mp hMem, hNumber, hRadius.symm⟩

/- A distance ranked after the radius is not up to it. -/
private theorem not_le_radius_of_next
    {near far : List (Separation α)}
    {s t : Separation α}
    (hSorted :
      others.mergeSort ranksUpTo = near ++ s :: far)
    (hLength : near.length + 1 = k)
    (hNumber : s.HasNumber)
    (hNext : Scalar.before s.joint (radius (k + 1) others))
    (hMem : t ∈ far) :
    ¬ Scalar.le t.joint s.joint := by
  cases far with
  | nil => simp at hMem
  | cons next far =>
      have hRadius : radius (k + 1) others = next.joint := by
        rw [radius, hSorted, ← hLength]
        simp
      have hRanks := pairwise_sorted others
      rw [hSorted, List.pairwise_append, List.pairwise_cons,
        List.pairwise_cons] at hRanks
      rcases hRanks with ⟨-, ⟨-, hAfter, -⟩, -⟩
      have hUpTo : Scalar.RanksUpTo next.joint t.joint := by
        rcases List.mem_cons.mp hMem with rfl | hFar
        · exact Scalar.RanksUpTo.refl t.joint
        · exact hAfter t hFar
      intro hLe
      have hBack : Scalar.RanksUpTo t.joint s.joint :=
        (Scalar.ranksUpTo_iff_le (Scalar.le_iff.mp hLe).1
          hNumber).mpr hLe
      rw [hRadius] at hNext
      exact hUpTo.trans hBack hNext

/-
  If the next distance ranks after the radius, no more than
  `k` distances are up to the radius.
-/
theorem countP_le_radius_le
    (hPos : 1 ≤ k)
    (hEnough : k ≤ others.countP fun s => s.HasNumber)
    (hNext :
      others.length = k ∨
        Scalar.before (radius k others)
          (radius (k + 1) others)) :
    (others.countP fun s =>
      Scalar.le s.joint (radius k others)) ≤ k := by
  rcases hNext with hAll | hNext
  · calc
      (others.countP fun s =>
          Scalar.le s.joint (radius k others))
        ≤ others.length := List.countP_le_length
      _ = k := hAll
  · rcases exists_sorted_eq hPos hEnough with
      ⟨near, far, s, hSorted, hLength, hRadius, hNumber, -, -⟩
    have hPerm := List.mergeSort_perm others ranksUpTo
    rw [hRadius] at hNext ⊢
    rw [← hPerm.countP_eq, hSorted, List.countP_append,
      List.countP_cons]
    have hNone :
        (far.countP fun t => Scalar.le t.joint s.joint) = 0 :=
      List.countP_eq_zero.mpr fun t hMem =>
        not_le_radius_of_next hSorted hLength hNumber hNext
          hMem
    have hFew :
        (near.countP fun t => Scalar.le t.joint s.joint) ≤
          near.length := List.countP_le_length
    split
    · omega
    · omega

end Separation

end NeighbourInfo
