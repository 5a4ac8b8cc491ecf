import NeighbourInfo.Proofs.Kernel
import NeighbourInfo.Proofs.Nearest
import NeighbourInfo.Proofs.Scalar.Exact

/-
  Observations with the variables `x` and `y` exchanged.

  Key definitions include:
    * `NeighbourInfo.Observations.swap`
    * `NeighbourInfo.Separation.swap`
    * `NeighbourInfo.Counts.swap`
    * `NeighbourInfo.Sums.swap`

  The joint distance does not tell the variables from each
  other, and so the same neighbours are found.  What is then
  counted in (x, z) was counted in (y, z) before.  The local
  values and the average do not change, where it does not
  matter in which order terms are added and subtracted.

  This is proven by:
    * `NeighbourInfo.Separation.nearest_map`
    * `NeighbourInfo.Separation.radius_map`
    * `NeighbourInfo.Observations.pointCounts_swap`
    * `NeighbourInfo.Counts.localValue_swap`
    * `NeighbourInfo.Sums.average_swap`
-/

------------------------------------------------------------
-- Separations
------------------------------------------------------------

namespace NeighbourInfo

namespace Separation

variable {α : Type}

/- The distances with those in x and y exchanged. -/
def swap
    (s : Separation α) :
    Separation α :=
  ⟨s.y, s.x, s.z⟩

variable [Scalar α] [Scalar.LawfulOrder α]

/- The joint distance compares with others as before. -/
theorem joint_swap
    (s : Separation α) :
    Scalar.Alike s.swap.joint s.joint := by
  have hNumber : s.swap.HasNumber ↔ s.HasNumber := by
    rw [hasNumber_iff, hasNumber_iff]
    exact and_left_comm
  have hBound :
      ∀ e : α,
        Scalar.le s.swap.joint e ↔ Scalar.le s.joint e := by
    intro e
    rw [joint_le_iff, joint_le_iff]
    exact and_left_comm
  by_cases hHas : s.HasNumber
  · left
    apply Scalar.eq_of_le_of_le
    · apply (hBound s.joint).mpr
      exact
        Scalar.le_iff.mpr ⟨hHas, hHas, Scalar.lt_irrefl _⟩
    · apply (hBound s.swap.joint).mp
      have hSwap := hNumber.mpr hHas
      exact
        Scalar.le_iff.mpr ⟨hSwap, hSwap, Scalar.lt_irrefl _⟩
  · exact Or.inr ⟨fun hSwap => hHas (hNumber.mp hSwap), hHas⟩

section JointDistance

variable {others : List (Separation α)}
variable {f : Separation α → Separation α}
variable
  (hJoint : ∀ s ∈ others, Scalar.Alike (f s).joint s.joint)
include hJoint

/- Separations are ranked by their joint distances alone. -/
theorem mergeSort_map :
    (others.map f).mergeSort ranksUpTo =
      (others.mergeSort ranksUpTo).map f := by
  symm
  apply List.map_mergeSort
  intro s hS t hT
  rw [ranksUpTo, ranksUpTo,
    (hJoint t hT).before_eq (hJoint s hS)]

/- So are the nearest ones chosen, also among equals. -/
theorem nearest_map
    (k : Nat) :
    nearest k (others.map f) = (nearest k others).map f := by
  rw [nearest, nearest, mergeSort_map hJoint, List.map_take]

/- They are as far away as before. -/
theorem radius_map
    (k : Nat) :
    Scalar.Alike (radius k (others.map f))
      (radius k others) := by
  rw [radius, radius, mergeSort_map hJoint, List.map_map]
  by_cases hRank :
      k - 1 < (others.mergeSort ranksUpTo).length
  · simp only [List.getD_eq_getElem?_getD, List.getElem?_map,
      List.getElem?_eq_getElem hRank, Option.map_some,
      Option.getD_some, Function.comp_apply]
    apply hJoint
    exact List.mem_mergeSort.mp (List.getElem_mem hRank)
  · simp only [List.getD_eq_getElem?_getD, List.getElem?_map,
      List.getElem?_eq_none (Nat.le_of_not_lt hRank),
      Option.map_none, Option.getD_none]
    exact Scalar.Alike.refl 0

end JointDistance

end Separation

end NeighbourInfo

------------------------------------------------------------
-- Counts
------------------------------------------------------------

namespace NeighbourInfo

namespace Counts

variable {α : Type}

/- The counts with those in (x, z) and (y, z) exchanged. -/
def swap
    (c : Counts) :
    Counts :=
  ⟨c.yz, c.xz, c.z⟩

theorem ofTests_map_swap
    (nearX : α → Bool)
    (nearY : α → Bool)
    (nearZ : α → Bool)
    (others : List (Separation α)) :
    ofTests nearY nearX nearZ (others.map Separation.swap) =
      (ofTests nearX nearY nearZ others).swap := by
  simp only [ofTests, List.countP_map]
  rfl

variable [Scalar α]

/- Any chosen neighbours reach as far as before. -/
theorem within_map_swap
    (chosen : List (Separation α))
    (others : List (Separation α)) :
    within (chosen.map Separation.swap)
        (others.map Separation.swap) =
      (within chosen others).swap := by
  simp only [within, List.map_map]
  exact ofTests_map_swap _ _ _ _

variable [Scalar.LawfulOrder α]

theorem inside_map_swap
    {radius radius' : α}
    (hAlike : Scalar.Alike radius' radius)
    (others : List (Separation α)) :
    inside radius' (others.map Separation.swap) =
      (inside radius others).swap := by
  have hNear :
      (fun d => Scalar.lt d radius') =
        fun d => Scalar.lt d radius := by
    funext d
    exact hAlike.lt_right d
  rw [inside, hNear]
  exact ofTests_map_swap _ _ _ _

end Counts

namespace Observations

variable {α : Type}

/- The tables of x and y exchanged. -/
def swap
    (data : Observations α) :
    Observations α :=
  ⟨data.y, data.x, data.z⟩

theorem size_swap
    {data : Observations α}
    (hAligned : data.IsAligned) :
    data.swap.size = data.size :=
  hAligned.1

variable [Scalar α]

theorem others_swap
    {data : Observations α}
    (hAligned : data.IsAligned)
    (norm : Norm)
    (window : Nat)
    (i : Nat) :
    data.swap.others norm window i =
      (data.others norm window i).map Separation.swap := by
  rw [others, others, size_swap hAligned, List.map_map]
  rfl

/- What is counted at a point is exchanged. -/
theorem pointCounts_swap
    [Scalar.LawfulOrder α]
    {data : Observations α}
    (hAligned : data.IsAligned)
    (algorithm : Algorithm)
    (norm : Norm)
    (window : Nat)
    (k : Nat)
    (i : Nat) :
    data.swap.pointCounts algorithm norm window k i =
      (data.pointCounts algorithm norm window k i).swap := by
  unfold pointCounts
  rw [others_swap hAligned]
  cases algorithm with
  | first =>
      apply Counts.inside_map_swap
      exact Separation.radius_map (fun s _ => s.joint_swap) k
  | second =>
      dsimp only
      rw [Separation.nearest_map fun s _ => s.joint_swap]
      exact Counts.within_map_swap _ _

theorem map_pointCounts_swap
    [Scalar.LawfulOrder α]
    {data : Observations α}
    (hAligned : data.IsAligned)
    (algorithm : Algorithm)
    (norm : Norm)
    (window : Nat)
    (k : Nat)
    (points : List Nat) :
    points.map
        (data.swap.pointCounts algorithm norm window k) =
      (points.map
        (data.pointCounts algorithm norm window k)).map
        Counts.swap := by
  rw [List.map_map]
  apply List.map_congr_left
  intro i _
  exact pointCounts_swap hAligned algorithm norm window k i

end Observations

end NeighbourInfo

------------------------------------------------------------
-- Values
------------------------------------------------------------

namespace NeighbourInfo

variable {α : Type} [Scalar α]

/- The sums with those of (x, z) and (y, z) exchanged. -/
def Sums.swap
    (s : Sums α) :
    Sums α :=
  ⟨s.digammas, s.yz, s.xz, s.z, s.inverseYZ, s.inverseXZ⟩

variable [Scalar.ExactArithmetic α]

theorem Counts.digammas_swap
    (algorithm : Algorithm)
    (c : Counts) :
    (c.swap.digammas algorithm : α) = c.digammas algorithm := by
  cases algorithm with
  | first => exact Scalar.sub_right_comm _ _ _
  | second => exact Scalar.sub_right_comm _ _ _

theorem Counts.localValue_swap
    (algorithm : Algorithm)
    (k : α)
    (c : Counts) :
    c.swap.localValue algorithm k =
      c.localValue algorithm k := by
  cases algorithm with
  | first =>
      rw [localValue, localValue, digammas_swap]
  | second =>
      rw [localValue, localValue, digammas_swap]
      exact Scalar.add_right_comm _ _ _

namespace Sums

omit [Scalar α] [Scalar.ExactArithmetic α] in
theorem ofCount_map_swap
    (count : Counts → Nat)
    (counts : List Counts) :
    ofCount count (counts.map Counts.swap) =
      ofCount (fun c => count c.swap) counts := by
  induction counts with
  | nil => rfl
  | cons c counts ih => rw [List.map_cons, ofCount, ofCount, ih]

theorem ofCounts_map_swap
    (algorithm : Algorithm)
    (counts : List Counts) :
    (ofCounts algorithm (counts.map Counts.swap) : Sums α) =
      (ofCounts algorithm counts).swap := by
  have hDigammas :
      (counts.map Counts.swap).map
          (Counts.digammas (α := α) algorithm) =
        counts.map (Counts.digammas algorithm) := by
    rw [List.map_map]
    apply List.map_congr_left
    intro c _
    exact c.digammas_swap algorithm
  simp only [ofCounts, hDigammas, ofCount_map_swap]
  cases algorithm with
  | first => rfl
  | second =>
      dsimp only
      rw [List.map_map, List.map_map]
      rfl

/- The closing formula adds what is exchanged. -/
theorem average_swap
    (algorithm : Algorithm)
    (k : α)
    (means : Sums α) :
    means.swap.average algorithm k =
      means.average algorithm k := by
  cases algorithm with
  | first => rfl
  | second => exact Scalar.add_right_comm _ _ _

end Sums

end NeighbourInfo
