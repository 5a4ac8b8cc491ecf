import NeighbourInfo.Proofs.Counts.Within
import NeighbourInfo.Proofs.Kernel

/-
  Counts strictly inside of the radius.

  The first algorithm counts what is nearer than the `k`-th
  neighbour.  A point that is nearer in the joint space is
  nearer in every variable, and the other way round, so that
  the points nearer in the joint space are those that are
  counted in (x, z) and in (y, z).  There are fewer than `k`
  of them, whatever distances are tied and whatever distances
  are no numbers.

  This is proven by:
    * `NeighbourInfo.Counts.countP_joint_le_inside`
    * `NeighbourInfo.Counts.xz_add_yz_inside_le`
    * `NeighbourInfo.Observations.countsAt_first_between`
-/

------------------------------------------------------------
-- Nearer In The Joint Space
------------------------------------------------------------

namespace NeighbourInfo

namespace Counts

variable {α : Type} [Scalar α] [Scalar.LawfulOrder α]
variable (e : α) (others : List (Separation α))

/- What is nearer in the joint space is counted throughout. -/
theorem countP_joint_le_inside :
    (others.countP fun s => Scalar.lt s.joint e) ≤
        (inside e others).xz ∧
      (others.countP fun s => Scalar.lt s.joint e) ≤
        (inside e others).yz := by
  constructor
  · apply List.countP_mono_left
    intro s _ hLess
    rcases Separation.joint_lt_iff.mp hLess with ⟨hX, -, hZ⟩
    exact Bool.and_eq_true_iff.mpr ⟨hZ, hX⟩
  · apply List.countP_mono_left
    intro s _ hLess
    rcases Separation.joint_lt_iff.mp hLess with ⟨-, hY, hZ⟩
    exact Bool.and_eq_true_iff.mpr ⟨hZ, hY⟩

/- Twice counted is only what is nearer in the joint space. -/
theorem xz_add_yz_inside_le :
    (inside e others).xz + (inside e others).yz ≤
      (inside e others).z +
        others.countP fun s => Scalar.lt s.joint e := by
  have hTwice :
      ∀ s : Separation α,
        (Scalar.lt s.x e && Scalar.lt s.y e &&
            Scalar.lt s.z e) =
          Scalar.lt s.joint e := by
    intro s
    rw [Bool.eq_iff_iff, Bool.and_eq_true, Bool.and_eq_true,
      and_assoc, Separation.joint_lt_iff]
  have hBoth :=
    xz_add_yz_ofTests_le (Scalar.lt · e) (Scalar.lt · e)
      (Scalar.lt · e) others
  simp only [hTwice] at hBoth
  exact hBoth

end Counts

end NeighbourInfo

------------------------------------------------------------
-- The Counts Of A Point
------------------------------------------------------------

namespace NeighbourInfo

namespace Observations

variable {α : Type} [Scalar α] [Scalar.LawfulOrder α]

/-
  A point with enough admissible points has counts by the
  first algorithm, which lie between those of the points that
  are nearer in the joint space and those of all admissible
  points.  Fewer than `k` points are nearer than the `k`-th
  one.  They are as many as can be only where the one before
  it is nearer, provided that the distances are numbers.
-/
theorem countsAt_first_between
    {data : Observations α}
    (hAligned : data.IsAligned)
    {i : Nat}
    (hPoint : i < data.size)
    (norm : Norm)
    (window : Nat)
    {k : Nat}
    (hPos : 1 ≤ k)
    (hEnough :
      k ≤ (Window.admissible window i data.size).length) :
    let points := Window.admissible window i data.size
    let joint (j : Nat) := (data.separation norm i j).joint
    let radius (n : Nat) :=
      Separation.radius n (data.others norm window i)
    let m :=
      points.countP fun j => Scalar.lt (joint j) (radius k)
    ∃ c,
      data.countsAt .first ⟨.whole k, norm, window⟩ i =
          .ok c ∧
        c = data.countsInside norm window i (radius k) ∧
        m ≤ k - 1 ∧
        m ≤ c.xz ∧ c.xz ≤ c.z ∧ m ≤ c.yz ∧ c.yz ≤ c.z ∧
        c.z ≤ points.length ∧
        c.xz + c.yz ≤ c.z + m ∧
        c.xz + c.yz ≤ c.z + (k - 1) ∧
        ((∀ j ∈ points, Scalar.IsNumber (joint j)) →
          (m = k - 1 ↔
            k = 1 ∨
              Scalar.lt (radius (k - 1)) (radius k))) := by
  intro points joint radius m
  let others := data.others norm window i
  have hLength : others.length = points.length :=
    data.length_others norm window i
  have hNearer :
      (others.countP fun s => Scalar.lt s.joint (radius k)) =
        m :=
    List.countP_map
  refine ⟨Counts.inside (radius k) others, ?_, ?_⟩
  · exact
      countsAt_of_enough hAligned hPoint hPos .first norm
        hEnough
  · have hFew : m < k := by
      rw [← hNearer]
      exact
        Separation.countP_lt_radius_lt hPos
          (hLength ▸ hEnough)
    have hMore :=
      Counts.countP_joint_le_inside (radius k) others
    have hTwice :=
      Counts.xz_add_yz_inside_le (radius k) others
    have hMost :
        (Counts.inside (radius k) others).z ≤ others.length :=
      Counts.z_ofTests_le _ _ _ _
    rw [hNearer] at hMore hTwice
    rw [hLength] at hMost
    refine
      ⟨data.inside_others norm window i (radius k),
        Nat.le_sub_one_of_lt hFew, hMore.1,
        Counts.xz_ofTests_le _ _ _ _, hMore.2,
        Counts.yz_ofTests_le _ _ _ _, hMost, hTwice, ?_, ?_⟩
    · omega
    · intro hNumbers
      rw [← hNearer]
      exact
        Separation.countP_lt_radius_eq_iff hPos
          (le_countP_hasNumber hEnough hNumbers)

/-
  Tied distances of doubles, and one that is no number: of the
  four other points two are as near as the second neighbour,
  and the last one has no distance in y.
-/
theorem countsAt_first_between_doubles :
    let data : Observations Float :=
      ⟨⟨1, [[0], [1], [1], [0], [0]]⟩,
        ⟨1, [[0], [1], [0], [0], [0 / 0]]⟩,
        ⟨1, [[0], [0], [1], [0], [1]]⟩⟩
    data.IsAligned ∧
      2 ≤ (Window.admissible 0 0 data.size).length ∧
      ∃ c,
        data.countsAt .first ⟨.whole 2, .euclidean, 0⟩ 0 =
            .ok c ∧
          c.xz + c.yz ≤ c.z + 1 := by
  intro data
  have hAligned : data.IsAligned := ⟨by decide, by decide⟩
  have hEnough :
      2 ≤ (Window.admissible 0 0 data.size).length := by
    decide
  rcases
      countsAt_first_between hAligned (by decide) .euclidean 0
        (by decide) hEnough with
    ⟨c, hCounts, -, -, -, -, -, -, -, -, hTwice, -⟩
  exact ⟨hAligned, hEnough, c, hCounts, hTwice⟩

end Observations

end NeighbourInfo
