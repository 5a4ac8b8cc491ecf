import NeighbourInfo.Sums
import NeighbourInfo.Proofs.Nearest
import NeighbourInfo.Proofs.Scalar.Double
import NeighbourInfo.Proofs.Search

/-
  Counts within the reach of the `k` nearest points.

  The second algorithm reads three radii off its neighbours,
  each from another one perhaps, and takes digammas and
  inverses of its counts.  Whichever points are chosen as the
  nearest ones, all of them are counted, so that no count is
  zero.

  This is proven by:
    * `NeighbourInfo.Separation.IsNearest.le_within`
    * `NeighbourInfo.Counts.xz_add_yz_within_le`
    * `NeighbourInfo.Counts.within_congr`
    * `NeighbourInfo.Observations.counts_of_isNearest`
-/

------------------------------------------------------------
-- Counting
------------------------------------------------------------

namespace NeighbourInfo

namespace Counts

variable {α : Type}

/-
  What is near in (x, z) and what is near in (y, z) is near in
  z, and only what is near in all three is counted twice.
-/
theorem xz_add_yz_ofTests_le
    (nearX : α → Bool)
    (nearY : α → Bool)
    (nearZ : α → Bool)
    (others : List (Separation α)) :
    (ofTests nearX nearY nearZ others).xz +
        (ofTests nearX nearY nearZ others).yz ≤
      (ofTests nearX nearY nearZ others).z +
        others.countP fun s =>
          nearX s.x && nearY s.y && nearZ s.z := by
  simp only [ofTests]
  induction others with
  | nil => simp
  | cons s others ih =>
      simp only [List.countP_cons]
      by_cases hZ : nearZ s.z
      · by_cases hX : nearX s.x
        · by_cases hY : nearY s.y
          · simp only [hX, hY, hZ, Bool.and_self, if_true]
            omega
          · simp only [hX, hY, hZ, Bool.and_false,
              Bool.and_self, if_true, if_false,
              Bool.false_eq_true]
            omega
        · simp only [hX, hZ, Bool.and_false, Bool.false_and,
            Bool.true_and, if_true, if_false,
            Bool.false_eq_true]
          split
          · omega
          · omega
      · simp only [hZ, Bool.and_false, Bool.false_and,
          if_false, Bool.false_eq_true]
        omega

variable [Scalar α]

/- No more points are counted than there are. -/
omit [Scalar α] in
theorem z_ofTests_le
    (nearX : α → Bool)
    (nearY : α → Bool)
    (nearZ : α → Bool)
    (others : List (Separation α)) :
    (ofTests nearX nearY nearZ others).z ≤ others.length :=
  List.countP_le_length

/- The radii of the second algorithm are those of a reach. -/
theorem within_eq_ofTests
    (chosen : List (Separation α))
    (others : List (Separation α)) :
    within chosen others =
      ofTests (Scalar.le · (Separation.reach chosen).x)
        (Scalar.le · (Separation.reach chosen).y)
        (Scalar.le · (Separation.reach chosen).z) others := rfl

end Counts

end NeighbourInfo

------------------------------------------------------------
-- Counts Within A Reach
------------------------------------------------------------

namespace NeighbourInfo

namespace Counts

variable {α : Type} [Scalar α] [Scalar.LawfulOrder α]
variable {chosen others : List (Separation α)}

/-
  Twice counted are at most the points that are as near in the
  joint space as the chosen ones reach.
-/
theorem xz_add_yz_within_le
    (hNumber : (Separation.reach chosen).HasNumber) :
    (within chosen others).xz + (within chosen others).yz ≤
      (within chosen others).z +
        others.countP fun s =>
          Scalar.le s.joint (Separation.reach chosen).joint := by
  have hTwice :
      (others.countP fun s =>
          Scalar.le s.x (Separation.reach chosen).x &&
            Scalar.le s.y (Separation.reach chosen).y &&
            Scalar.le s.z (Separation.reach chosen).z) ≤
        others.countP fun s =>
          Scalar.le s.joint
            (Separation.reach chosen).joint := by
    apply List.countP_mono_left
    intro s _ hAll
    rw [Bool.and_eq_true, Bool.and_eq_true] at hAll
    rcases hAll with ⟨⟨hX, hY⟩, hZ⟩
    exact Separation.IsWithin.joint_le ⟨hX, hY, hZ⟩ hNumber
  have hBoth :=
    xz_add_yz_ofTests_le
      (Scalar.le · (Separation.reach chosen).x)
      (Scalar.le · (Separation.reach chosen).y)
      (Scalar.le · (Separation.reach chosen).z) others
  rw [← within_eq_ofTests] at hBoth
  exact Nat.le_trans hBoth (Nat.add_le_add_left hTwice _)

/- The order of the chosen points does not matter. -/
theorem within_congr
    {chosen' : List (Separation α)}
    (hPerm : chosen.Perm chosen')
    (hNumbers : ∀ s ∈ chosen, s.HasNumber) :
    within chosen others = within chosen' others := by
  by_cases hNonempty : chosen = []
  · rw [hNonempty] at hPerm
    rw [hNonempty, hPerm.nil_eq]
  · have hLargest :
        ∀ f : Separation α → α,
          (∀ s ∈ chosen, Scalar.IsNumber (f s)) →
            Scalar.eq (Scalar.largest (chosen.map f))
              (Scalar.largest (chosen'.map f)) := by
      intro f hF
      refine Scalar.largest_eq_of_perm ?_ (hPerm.map f) ?_
      · simpa using hNonempty
      · exact List.forall_mem_map.mpr hF
    have hX :=
      hLargest (·.x) fun s hS =>
        (Separation.hasNumber_iff.mp (hNumbers s hS)).1
    have hY :=
      hLargest (·.y) fun s hS =>
        (Separation.hasNumber_iff.mp (hNumbers s hS)).2.1
    have hZ :=
      hLargest (·.z) fun s hS =>
        (Separation.hasNumber_iff.mp (hNumbers s hS)).2.2
    simp only [within, Scalar.le_congr_right hX,
      Scalar.le_congr_right hY, Scalar.le_congr_right hZ]

end Counts

namespace Separation

variable {α : Type} [Scalar α] [Scalar.LawfulOrder α]
variable {separation : Nat → Separation α}
variable {k : Nat} {points chosen : List Nat}

/- Every chosen point is counted, in (x, z) and in (y, z). -/
theorem IsNearest.le_within
    (hPos : 1 ≤ k)
    (hNodup : points.Nodup)
    (hNearest : IsNearest separation k points chosen)
    (hEnough :
      k ≤ points.countP fun j => (separation j).HasNumber) :
    k ≤ (Counts.within (chosen.map separation)
        (points.map separation)).xz ∧
      k ≤ (Counts.within (chosen.map separation)
        (points.map separation)).yz := by
  rcases hNearest.forall_hasNumber hPos hNodup hEnough with
    ⟨-, hNumbers⟩
  have hWithin :
      ∀ i ∈ chosen,
        (separation i).IsWithin
          (reach (chosen.map separation)) :=
    fun i hI =>
      isWithin_reach hNumbers (List.mem_map_of_mem hI)
  constructor
  · change k ≤ (points.map separation).countP _
    rw [List.countP_map]
    apply hNearest.le_countP
    intro i hI
    rcases hWithin i hI with ⟨hX, -, hZ⟩
    exact Bool.and_eq_true_iff.mpr ⟨hZ, hX⟩
  · change k ≤ (points.map separation).countP _
    rw [List.countP_map]
    apply hNearest.le_countP
    intro i hI
    rcases hWithin i hI with ⟨-, hY, hZ⟩
    exact Bool.and_eq_true_iff.mpr ⟨hZ, hY⟩

end Separation

end NeighbourInfo

------------------------------------------------------------
-- Counts Of A Choice
------------------------------------------------------------

namespace NeighbourInfo

namespace Observations

variable {α : Type} [Scalar α] [Scalar.LawfulOrder α]

/-
  The second algorithm counts within the reach of some choice
  of the `k` nearest admissible points, and what it relies on
  holds for each choice: the three radii come to the joint
  radius, all chosen points are counted, and so no digamma and
  no inverse is taken of zero.  If the next point is further
  away than the radius there is but one choice.
-/
theorem counts_of_isNearest
    {data : Observations α}
    (hAligned : data.IsAligned)
    {i : Nat}
    (hPoint : i < data.size)
    (norm : Norm)
    (window : Nat)
    {k : Nat}
    (hPos : 1 ≤ k)
    (hEnough :
      k ≤ (Window.admissible window i data.size).countP
        fun j => (data.separation norm i j).HasNumber) :
    let points := Window.admissible window i data.size
    let separation := data.separation norm i
    let others := data.others norm window i
    let e := Separation.radius k others
    Separation.IsRadius k others e ∧
    (∃ chosen,
      Separation.IsNearest separation k points chosen ∧
        data.countsAt .second ⟨.whole k, norm, window⟩ i =
          .ok
            (Counts.within (chosen.map separation) others)) ∧
    ∀ chosen,
      Separation.IsNearest separation k points chosen →
      let near := chosen.map separation
      let c := Counts.within near others
      Scalar.eq (Separation.reach near).joint e ∧
      (∀ s ∈ near, s.IsWithin (Separation.reach near)) ∧
      k ≤ c.xz ∧ k ≤ c.yz ∧ c.xz ≤ c.z ∧ c.yz ≤ c.z ∧
      c.z ≤ points.length ∧
      c.xz + c.yz ≤
        c.z + others.countP (fun s => Scalar.le s.joint e) ∧
      (points.length = k ∨
          Scalar.before e (Separation.radius (k + 1) others) →
        c.xz + c.yz ≤ c.z + k ∧
        ∀ chosen',
          Separation.IsNearest separation k points chosen' →
          let c' :=
            Counts.within (chosen'.map separation) others
          chosen'.Perm chosen ∧ c' = c ∧
            Counts.localValue (α := α) .second (Scalar.ofNat k)
                c' =
              Counts.localValue .second (Scalar.ofNat k) c) := by
  intro points separation others e
  have hNodup : points.Nodup :=
    Window.nodup_admissible window i data.size
  have hLength : others.length = points.length :=
    data.length_others norm window i
  have hNumbered :
      k ≤ others.countP fun s => s.HasNumber := by
    change k ≤ (points.map separation).countP _
    rwa [List.countP_map]
  have hMany : k ≤ points.length :=
    Nat.le_trans hEnough List.countP_le_length
  refine
    ⟨Separation.isRadius_radius hPos hNumbered, ?_, ?_⟩
  · have hChoice :
        ∃ chosen,
          Separation.IsNearest separation k points chosen ∧
            chosen.map separation =
              Separation.nearest k others :=
      Separation.exists_isNearest hNodup hMany
    rcases hChoice with ⟨chosen, hNearest, hSorted⟩
    refine ⟨chosen, hNearest, ?_⟩
    rw [countsAt_of_isAligned hAligned hPoint, if_neg,
      Counts.ofSeparations_second hPos, hSorted]
    · change ¬ (points.length : Int) < k
      omega
  · intro chosen hNearest near c
    rcases hNearest.forall_hasNumber hPos hNodup hEnough with
      ⟨hNonempty, hNumbers⟩
    have hReach :=
      Separation.hasNumber_reach hNonempty hNumbers
    have hRadius :
        Scalar.eq (Separation.reach near).joint e :=
      hNearest.reach_eq_radius hPos hNodup hEnough
    rcases hNearest.le_within hPos hNodup hEnough with
      ⟨hXZ, hYZ⟩
    have hTwice :
        c.xz + c.yz ≤
          c.z +
            others.countP fun s => Scalar.le s.joint e := by
      have hBoth :
          c.xz + c.yz ≤
            c.z +
              others.countP fun s =>
                Scalar.le s.joint (Separation.reach near).joint :=
        Counts.xz_add_yz_within_le hReach
      simp only [Scalar.le_congr_right hRadius] at hBoth
      exact hBoth
    refine
      ⟨hRadius, fun s => Separation.isWithin_reach hNumbers,
        hXZ, hYZ, Counts.xz_ofTests_le _ _ _ _,
        Counts.yz_ofTests_le _ _ _ _, ?_, hTwice, ?_⟩
    · rw [← hLength]
      exact Counts.z_ofTests_le _ _ _ _
    · intro hNext
      have hFew :
          (others.countP fun s => Scalar.le s.joint e) ≤ k := by
        rw [← hLength] at hNext
        exact
          Separation.countP_le_radius_le hPos hNumbered hNext
      refine ⟨by omega, ?_⟩
      intro chosen' hOther c'
      have hPerm : chosen'.Perm chosen :=
        hOther.perm hPos hNodup hNearest hEnough hFew
      have hCounts : c' = c :=
        (Counts.within_congr (hPerm.symm.map separation)
          hNumbers).symm
      exact ⟨hPerm, hCounts, by rw [hCounts]⟩

/- Two neighbours among four points of doubles. -/
theorem counts_of_isNearest_doubles :
    let data : Observations Float :=
      ⟨⟨1, [[0], [1], [3], [4]]⟩, ⟨1, [[0], [2], [1], [5]]⟩,
        ⟨1, [[0], [0], [1], [1]]⟩⟩
    data.IsAligned ∧
      (2 ≤ (Window.admissible 0 0 data.size).countP
        fun j => (data.separation .maximum 0 j).HasNumber) ∧
      ∃ c,
        data.countsAt .second ⟨.whole 2, .maximum, 0⟩ 0 =
            .ok c ∧
          2 ≤ c.xz ∧ 2 ≤ c.yz := by
  intro data
  have hAligned : data.IsAligned := ⟨by decide, by decide⟩
  have hPoint : 0 < data.size := by decide
  have hEnough :
      2 ≤ (Window.admissible 0 0 data.size).countP
        fun j => (data.separation .maximum 0 j).HasNumber := by
    decide +kernel
  rcases
      counts_of_isNearest hAligned hPoint .maximum 0
        (by decide) hEnough with
    ⟨-, ⟨chosen, hNearest, hCounts⟩, hAll⟩
  rcases hAll chosen hNearest with ⟨-, -, hXZ, hYZ, -⟩
  exact ⟨hAligned, hEnough, _, hCounts, hXZ, hYZ⟩

end Observations

end NeighbourInfo
