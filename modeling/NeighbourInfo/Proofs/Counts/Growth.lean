import NeighbourInfo.Proofs.Counts.Inside
import NeighbourInfo.Proofs.Relabelling

/-
  Radii and counts that grow.

  Key definitions include:
    * `NeighbourInfo.Counts.IsUpTo`

  More neighbours reach further, and so does the same number
  of neighbours among fewer points.  What is counted within a
  radius is counted within a larger one.  The second algorithm
  reads its radii off the neighbours themselves: these have to
  be among the neighbours when there are more of them, which
  tied distances can prevent.

  This is proven by:
    * `NeighbourInfo.Separation.radius_le`
    * `NeighbourInfo.Separation.IsNearest.subset_of_le`
    * `NeighbourInfo.Separation.reach_isWithin_of_subset`
    * `NeighbourInfo.Observations.countsAt_growth`
-/

------------------------------------------------------------
-- Counts Within Larger Radii
------------------------------------------------------------

namespace NeighbourInfo

namespace Counts

/- None of the counts exceeds the other one. -/
structure IsUpTo
    (c : Counts)
    (d : Counts) :
    Prop where
  xz : c.xz ≤ d.xz
  yz : c.yz ≤ d.yz
  z : c.z ≤ d.z

variable {α : Type}

/- What passes wider tests is counted more often. -/
theorem isUpTo_ofTests
    {nearX nearX' nearY nearY' nearZ nearZ' : α → Bool}
    (hX : ∀ a, nearX a → nearX' a)
    (hY : ∀ a, nearY a → nearY' a)
    (hZ : ∀ a, nearZ a → nearZ' a)
    (others : List (Separation α)) :
    (ofTests nearX nearY nearZ others).IsUpTo
      (ofTests nearX' nearY' nearZ' others) := by
  refine ⟨?_, ?_, ?_⟩
  · apply List.countP_mono_left
    intro s _ hNear
    rcases Bool.and_eq_true_iff.mp hNear with ⟨hNearZ, hNearX⟩
    exact Bool.and_eq_true_iff.mpr ⟨hZ _ hNearZ, hX _ hNearX⟩
  · apply List.countP_mono_left
    intro s _ hNear
    rcases Bool.and_eq_true_iff.mp hNear with ⟨hNearZ, hNearY⟩
    exact Bool.and_eq_true_iff.mpr ⟨hZ _ hNearZ, hY _ hNearY⟩
  · exact List.countP_mono_left fun s _ => hZ s.z

variable [Scalar α] [Scalar.LawfulOrder α]

/- A larger radius has no fewer points strictly inside. -/
theorem isUpTo_inside
    {e e' : α}
    (hLe : Scalar.le e e')
    (others : List (Separation α)) :
    (inside e others).IsUpTo (inside e' others) := by
  have hFurther :
      ∀ a, Scalar.lt a e → Scalar.lt a e' :=
    fun a hLess => Scalar.lt_of_lt_of_le hLess hLe
  exact isUpTo_ofTests hFurther hFurther hFurther others

/- So it is for three radii of which none is smaller. -/
theorem isUpTo_within
    {chosen chosen' : List (Separation α)}
    (hWithin :
      (Separation.reach chosen).IsWithin
        (Separation.reach chosen'))
    (others : List (Separation α)) :
    (within chosen others).IsUpTo (within chosen' others) := by
  rcases hWithin with ⟨hX, hY, hZ⟩
  rw [within_eq_ofTests, within_eq_ofTests]
  exact
    isUpTo_ofTests (fun _ hLe => Scalar.le_trans hLe hX)
      (fun _ hLe => Scalar.le_trans hLe hY)
      (fun _ hLe => Scalar.le_trans hLe hZ) others

end Counts

end NeighbourInfo

------------------------------------------------------------
-- Nearest Points Among More Of Them
------------------------------------------------------------

namespace NeighbourInfo

namespace Separation

variable {α : Type} [Scalar α] [Scalar.LawfulOrder α]

/- More neighbours among fewer points reach further. -/
theorem radius_le
    {k k' : Nat}
    (hPos : 1 ≤ k)
    (hMore : k ≤ k')
    {others others' : List (Separation α)}
    (hFewer : others'.Sublist others)
    (hEnough : k' ≤ others'.countP fun s => s.HasNumber) :
    Scalar.le (radius k others) (radius k' others') := by
  have hEnough' :
      k ≤ others.countP fun s => s.HasNumber :=
    hMore.trans (hEnough.trans hFewer.countP_le)
  exact
    (isRadius_radius hPos hEnough').le hPos hMore hFewer
      (isRadius_radius (hPos.trans hMore) hEnough)

/- The reach of more separations is no shorter. -/
theorem reach_isWithin_of_subset
    {chosen chosen' : List (Separation α)}
    (hSome : chosen ≠ [])
    (hSubset : chosen ⊆ chosen')
    (hNumbers : ∀ s ∈ chosen', s.HasNumber) :
    (reach chosen).IsWithin (reach chosen') := by
  have hLargest :
      ∀ f : Separation α → α,
        (∀ s ∈ chosen', Scalar.IsNumber (f s)) →
          Scalar.le (Scalar.largest (chosen.map f))
            (Scalar.largest (chosen'.map f)) := by
    intro f hF
    have hMap : chosen.map f ≠ [] := by simpa using hSome
    exact
      Scalar.le_largest (List.forall_mem_map.mpr hF)
        (List.map_subset f hSubset (Scalar.largest_mem hMap))
  exact
    ⟨hLargest _ fun s hS =>
        (hasNumber_iff.mp (hNumbers s hS)).1,
      hLargest _ fun s hS =>
        (hasNumber_iff.mp (hNumbers s hS)).2.1,
      hLargest _ fun s hS =>
        (hasNumber_iff.mp (hNumbers s hS)).2.2⟩

variable {separation : Nat → Separation α}
variable {k : Nat} {points chosen : List Nat}

/- Before a gap the nearest points are told by the radius. -/
private theorem IsNearest.perm_filter_of_hasGap
    (hPos : 1 ≤ k)
    (hNodup : points.Nodup)
    (hNearest : IsNearest separation k points chosen)
    (hEnough :
      k ≤ points.countP fun j => (separation j).HasNumber)
    (hGap : HasGap k (points.map separation)) :
    chosen.Perm
      (points.filter fun j =>
        Scalar.le (separation j).joint
          (radius k (points.map separation))) := by
  have hNumbered :
      k ≤ (points.map separation).countP fun s =>
        s.HasNumber := by
    rwa [List.countP_map]
  have hAll : k ≤ (points.map separation).length :=
    hNumbered.trans List.countP_le_length
  refine
    hNearest.perm_filter hPos hNodup hEnough
      (countP_le_radius_le hPos hNumbered ?_)
  exact hGap.imp_left fun hFew => Nat.le_antisymm hFew hAll

/-
  The nearest points are among the nearest of more points, if
  there is a gap behind the ones or behind the others: without
  it a tied point may be chosen once and not the other time.
-/
theorem IsNearest.subset_of_le
    {k' : Nat}
    {chosen' : List Nat}
    (hPos : 1 ≤ k)
    (hMore : k ≤ k')
    (hNodup : points.Nodup)
    (hFirst : IsNearest separation k points chosen)
    (hSecond : IsNearest separation k' points chosen')
    (hEnough :
      k' ≤ points.countP fun j => (separation j).HasNumber)
    (hGap :
      HasGap k (points.map separation) ∨
        HasGap k' (points.map separation)) :
    chosen ⊆ chosen' := by
  have hEnoughFirst := hMore.trans hEnough
  have hPosSecond := hPos.trans hMore
  have hUpTo :
      ∀ i ∈ chosen,
        Scalar.le (separation i).joint
          (radius k (points.map separation)) := by
    rcases
        hFirst.forall_hasNumber hPos hNodup hEnoughFirst with
      ⟨hSome, -⟩
    have hReach :=
      (joint_reach_le_iff hSome).mp
        (Scalar.le_of_eq
          (hFirst.reach_eq_radius hPos hNodup hEnoughFirst))
    exact fun i hI => hReach _ (List.mem_map_of_mem hI)
  intro i hI
  rcases hGap with hGap | hGap
  · -- If the point were left out, all points of the second
    -- choice would be as near as it, and so be chosen first.
    by_contra hOut
    have hPerm :=
      hFirst.perm_filter_of_hasGap hPos hNodup hEnoughFirst
        hGap
    have hAmong : i :: chosen' ⊆ chosen := by
      refine List.cons_subset.mpr ⟨hI, ?_⟩
      intro j hJ
      refine
        hPerm.mem_iff.mpr
          (List.mem_filter.mpr ⟨hSecond.subset hJ, ?_⟩)
      have hRanks :=
        hSecond.ranksUpTo j hJ i (hFirst.subset hI) hOut
      exact
        Scalar.le_trans
          (Scalar.le_of_ranksUpTo hRanks
            (hFirst.hasNumber hNodup hEnoughFirst hI))
          (hUpTo i hI)
    have hDistinct : (i :: chosen').Nodup :=
      List.nodup_cons.mpr ⟨hOut, hSecond.nodup⟩
    have hLength := (hDistinct.subperm hAmong).length_le
    rw [List.length_cons, hFirst.length, hSecond.length]
      at hLength
    omega
  · have hPerm :=
      hSecond.perm_filter_of_hasGap hPosSecond hNodup hEnough
        hGap
    have hLe :
        Scalar.le (radius k (points.map separation))
          (radius k' (points.map separation)) := by
      refine radius_le hPos hMore (List.Sublist.refl _) ?_
      rwa [List.countP_map]
    exact
      hPerm.mem_iff.mpr
        (List.mem_filter.mpr
          ⟨hFirst.subset hI, Scalar.le_trans (hUpTo i hI) hLe⟩)

end Separation

end NeighbourInfo

------------------------------------------------------------
-- The Counts Of A Point
------------------------------------------------------------

namespace NeighbourInfo

/- A wider window leaves fewer points. -/
theorem Window.admissible_sublist
    {window wider : Nat}
    (hWider : window ≤ wider)
    (i : Nat)
    (n : Nat) :
    (admissible wider i n).Sublist (admissible window i n) := by
  apply List.monotone_filter_right
  intro j hFar
  rw [decide_eq_true_iff] at hFar ⊢
  exact Nat.lt_of_le_of_lt hWider hFar

namespace Observations

variable {α : Type} [Scalar α]

private theorem others_sublist
    {window wider : Nat}
    (hWider : window ≤ wider)
    (norm : Norm)
    (data : Observations α)
    (i : Nat) :
    (data.others norm wider i).Sublist
      (data.others norm window i) :=
  (Window.admissible_sublist hWider i data.size).map _

/- The second algorithm counts for a choice of neighbours. -/
private theorem exists_countsAt_second
    {data : Observations α}
    [Scalar.LawfulOrder α]
    (hAligned : data.IsAligned)
    {i : Nat}
    (hPoint : i < data.size)
    (norm : Norm)
    {window k : Nat}
    (hPos : 1 ≤ k)
    (hEnough :
      k ≤ (Window.admissible window i data.size).length) :
    ∃ chosen,
      Separation.IsNearest (data.separation norm i) k
          (Window.admissible window i data.size) chosen ∧
        data.countsAt .second ⟨.whole k, norm, window⟩ i =
          .ok
            (Counts.within
              (chosen.map (data.separation norm i))
              (data.others norm window i)) := by
  have hNodup := Window.nodup_admissible window i data.size
  have hChoice :
      ∃ chosen,
        Separation.IsNearest (data.separation norm i) k
            (Window.admissible window i data.size) chosen ∧
          chosen.map (data.separation norm i) =
            Separation.nearest k (data.others norm window i) :=
    Separation.exists_isNearest hNodup hEnough
  rcases hChoice with ⟨chosen, hNearest, hSorted⟩
  refine ⟨chosen, hNearest, ?_⟩
  rw [countsAt_of_enough hAligned hPoint hPos _ _ hEnough,
    hSorted]
  rfl

variable [Scalar.LawfulOrder α]

/-
  With more neighbours, up to all admissible points, nothing
  becomes less.  By the first algorithm it is the radius and
  the counts.  By the second it is the three radii and the
  counts, for each choice of the nearest points, as long as at
  least one of the two choices does not end among points tied
  in distance; the fewer points are then among the more ones.
  For the same number of neighbours a wider window does not
  lessen the radius.
-/
theorem countsAt_growth
    {data : Observations α}
    (hAligned : data.IsAligned)
    {i : Nat}
    (hPoint : i < data.size)
    (norm : Norm)
    (window : Nat)
    {k k' : Nat}
    (hPos : 1 ≤ k)
    (hMore : k ≤ k')
    (hEnough :
      k' ≤ (Window.admissible window i data.size).length)
    (hNumbers :
      ∀ j ∈ Window.admissible window i data.size,
        (data.separation norm i j).HasNumber) :
    let points := Window.admissible window i data.size
    let separation := data.separation norm i
    let others (w : Nat) := data.others norm w i
    let search (n w : Nat) : Search α := ⟨.whole n, norm, w⟩
    let radius (n w : Nat) := Separation.radius n (others w)
    let inside (n w : Nat) :=
      Counts.inside (radius n w) (others w)
    let within (chosen : List Nat) :=
      Counts.within (chosen.map separation) (others window)
    let reach (chosen : List Nat) :=
      Separation.reach (chosen.map separation)
    (∀ n, 1 ≤ n → n ≤ k' →
      data.countsAt .first (search n window) i =
          .ok (inside n window) ∧
        ∃ chosen,
          Separation.IsNearest separation n points chosen ∧
            data.countsAt .second (search n window) i =
              .ok (within chosen)) ∧
    Scalar.le (radius k window) (radius k' window) ∧
    (inside k window).IsUpTo (inside k' window) ∧
    (∀ wider, window ≤ wider →
      k ≤ (Window.admissible wider i data.size).length →
        data.countsAt .first (search k wider) i =
            .ok (inside k wider) ∧
          Scalar.le (radius k window) (radius k wider)) ∧
    (Separation.HasGap k (others window) ∨
        Separation.HasGap k' (others window) →
      ∀ chosen chosen',
        Separation.IsNearest separation k points chosen →
        Separation.IsNearest separation k' points chosen' →
          chosen ⊆ chosen' ∧
          (reach chosen).IsWithin (reach chosen') ∧
          (within chosen).IsUpTo (within chosen')) := by
  intro points separation others search radius inside within
    reach
  have hNodup : points.Nodup :=
    Window.nodup_admissible window i data.size
  have hNumbered :
      k' ≤ (others window).countP fun s => s.HasNumber :=
    le_countP_hasNumber hEnough hNumbers
  have hRadius :
      Scalar.le (radius k window) (radius k' window) :=
    Separation.radius_le hPos hMore (List.Sublist.refl _)
      hNumbered
  refine
    ⟨?_, hRadius, Counts.isUpTo_inside hRadius _, ?_, ?_⟩
  · intro n hPosN hUpTo
    have hEnoughN := hUpTo.trans hEnough
    exact
      ⟨countsAt_of_enough hAligned hPoint hPosN .first norm
          hEnoughN,
        exists_countsAt_second hAligned hPoint norm hPosN
          hEnoughN⟩
  · intro wider hWider hEnoughWider
    refine
      ⟨countsAt_of_enough hAligned hPoint hPos .first norm
        hEnoughWider, ?_⟩
    refine
      Separation.radius_le hPos le_rfl
        (others_sublist hWider norm data i) ?_
    apply le_countP_hasNumber hEnoughWider
    intro j hJ
    have hSublist :=
      Window.admissible_sublist hWider i data.size
    exact hNumbers j (hSublist.subset hJ)
  · intro hGap chosen chosen' hFirst hSecond
    have hPoints :
        k' ≤
          points.countP fun j => (separation j).HasNumber := by
      change k' ≤ (points.map separation).countP _ at hNumbered
      rwa [List.countP_map] at hNumbered
    have hSubset : chosen ⊆ chosen' :=
      hFirst.subset_of_le hPos hMore hNodup hSecond hPoints
        hGap
    rcases
        hFirst.forall_hasNumber hPos hNodup
          (hMore.trans hPoints) with
      ⟨hSome, -⟩
    rcases
        hSecond.forall_hasNumber (hPos.trans hMore) hNodup
          hPoints with
      ⟨-, hAll⟩
    have hReach : (reach chosen).IsWithin (reach chosen') :=
      Separation.reach_isWithin_of_subset hSome
        (List.map_subset separation hSubset) hAll
    exact
      ⟨hSubset, hReach,
        Counts.isUpTo_within hReach (others window)⟩

/- One neighbour and all three of them, among four points. -/
theorem countsAt_growth_doubles :
    let data : Observations Float :=
      ⟨⟨1, [[0], [1], [3], [4]]⟩, ⟨1, [[0], [2], [1], [5]]⟩,
        ⟨1, [[0], [0], [1], [1]]⟩⟩
    let radius (n : Nat) :=
      Separation.radius n (data.others .maximum 0 0)
    data.IsAligned ∧
      3 ≤ (Window.admissible 0 0 data.size).length ∧
      (∀ j ∈ Window.admissible 0 0 data.size,
        (data.separation .maximum 0 j).HasNumber) ∧
      Scalar.le (radius 1) (radius 3) ∧
      ∃ c c',
        data.countsAt .first ⟨.whole 1, .maximum, 0⟩ 0 =
            .ok c ∧
          data.countsAt .first ⟨.whole 3, .maximum, 0⟩ 0 =
            .ok c' ∧
          c.IsUpTo c' := by
  intro data radius
  have hAligned : data.IsAligned := ⟨by decide, by decide⟩
  have hEnough :
      3 ≤ (Window.admissible 0 0 data.size).length := by
    decide
  have hNumbers :
      ∀ j ∈ Window.admissible 0 0 data.size,
        (data.separation .maximum 0 j).HasNumber := by
    decide +kernel
  rcases
      countsAt_growth (k := 1) hAligned (by decide) .maximum 0
        (by decide) (by decide) hEnough hNumbers with
    ⟨hCounts, hRadius, hUpTo, -, -⟩
  exact
    ⟨hAligned, hEnough, hNumbers, hRadius, _, _,
      (hCounts 1 (by decide) (by decide)).1,
      (hCounts 3 (by decide) (by decide)).1, hUpTo⟩

end Observations

end NeighbourInfo
