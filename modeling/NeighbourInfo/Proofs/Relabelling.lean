import NeighbourInfo.Proofs.Kernel
import NeighbourInfo.Proofs.Monotone
import NeighbourInfo.Proofs.Reading
import NeighbourInfo.Proofs.Scalar.Exact

/-
  Observations in another order.

  Key definitions include:
    * `NeighbourInfo.Window.IsRelabelling`
    * `NeighbourInfo.Separation.IsRank`
    * `NeighbourInfo.Separation.HasGap`

  All observations are put in a new order that keeps points
  within the window of each other, and no others.  A point is
  then compared with the same points as before, but in another
  order.  The radius does not depend on that order, nor do the
  counts.  Which of several equally distant neighbours are the
  nearest ones does; where the next one is further away than
  the last of the nearest, there is no choice.

  This is proven by:
    * `NeighbourInfo.Window.IsRelabelling.admissible_perm`
    * `NeighbourInfo.Separation.radius_alike_of_perm`
    * `NeighbourInfo.Separation.nearest_perm`
    * `NeighbourInfo.Table.standardise_pick`
    * `NeighbourInfo.Observations.pointCounts_pick`
-/

------------------------------------------------------------
-- Relabellings
------------------------------------------------------------

namespace NeighbourInfo

namespace Window

/-
  A permutation of `n` points after which the same points are
  within the window of each other.
-/
structure IsRelabelling
    (window : Nat)
    (n : Nat)
    (s : Nat → Nat) :
    Prop where
  bijOn : Set.BijOn s (Set.Iio n) (Set.Iio n)
  near_iff :
    ∀ i < n, ∀ j < n,
      ((s i : Int) - s j).natAbs ≤ window ↔
        ((i : Int) - j).natAbs ≤ window

variable {window n : Nat} {s : Nat → Nat}

/- Without a window any permutation will do. -/
theorem isRelabelling_zero
    (hBij : Set.BijOn s (Set.Iio n) (Set.Iio n)) :
    IsRelabelling 0 n s := by
  refine ⟨hBij, ?_⟩
  intro i hI j hJ
  have hSame := hBij.injOn.eq_iff hI hJ
  omega

/- Time may run backwards with any window. -/
theorem isRelabelling_reverse
    (window : Nat)
    (n : Nat) :
    IsRelabelling window n fun i => n - 1 - i := by
  refine ⟨⟨?_, ?_, ?_⟩, ?_⟩
  · intro i hI
    rw [Set.mem_Iio] at hI ⊢
    dsimp only
    omega
  · intro i hI j hJ hEq
    rw [Set.mem_Iio] at hI hJ
    change n - 1 - i = n - 1 - j at hEq
    omega
  · intro i hI
    rw [Set.mem_Iio] at hI
    refine ⟨n - 1 - i, ?_, ?_⟩
    · rw [Set.mem_Iio]
      omega
    · change n - 1 - (n - 1 - i) = i
      omega
  · intro i hI j hJ
    omega

namespace IsRelabelling

variable (hRelabelling : IsRelabelling window n s)
include hRelabelling

theorem lt
    {i : Nat}
    (hPoint : i < n) :
    s i < n :=
  hRelabelling.bijOn.mapsTo hPoint

/- All points are there, in another order. -/
theorem range_perm :
    ((List.range n).map s).Perm (List.range n) := by
  have hNodup : ((List.range n).map s).Nodup := by
    refine List.Nodup.map_on ?_ List.nodup_range
    intro i hI j hJ hEq
    exact
      hRelabelling.bijOn.injOn (List.mem_range.mp hI)
        (List.mem_range.mp hJ) hEq
  rw [List.perm_ext_iff_of_nodup hNodup List.nodup_range]
  intro i
  rw [List.mem_range, List.mem_map]
  constructor
  · rintro ⟨j, hJ, rfl⟩
    exact hRelabelling.lt (List.mem_range.mp hJ)
  · intro hI
    rcases hRelabelling.bijOn.surjOn hI with ⟨j, hJ, hEq⟩
    exact ⟨j, List.mem_range.mpr hJ, hEq⟩

/- A point is compared with the points it was compared with. -/
theorem admissible_perm
    {i : Nat}
    (hPoint : i < n) :
    ((admissible window i n).map s).Perm
      (admissible window (s i) n) := by
  have hNodup : ((admissible window i n).map s).Nodup := by
    refine
      List.Nodup.map_on ?_ (nodup_admissible window i n)
    intro j hJ j' hJ' hEq
    exact
      hRelabelling.bijOn.injOn (mem_admissible_iff.mp hJ).1
        (mem_admissible_iff.mp hJ').1 hEq
  rw [List.perm_ext_iff_of_nodup hNodup
    (nodup_admissible window (s i) n)]
  intro j
  rw [List.mem_map, mem_admissible_iff]
  constructor
  · rintro ⟨j, hJ, rfl⟩
    rcases mem_admissible_iff.mp hJ with ⟨hOther, hFar⟩
    have hNear := hRelabelling.near_iff i hPoint j hOther
    refine ⟨hRelabelling.lt hOther, ?_⟩
    omega
  · rintro ⟨hOther, hFar⟩
    rcases hRelabelling.bijOn.surjOn hOther with
      ⟨j, hJ, rfl⟩
    have hNear := hRelabelling.near_iff i hPoint j hJ
    refine ⟨j, mem_admissible_iff.mpr ⟨hJ, ?_⟩, rfl⟩
    omega

end IsRelabelling

end Window

end NeighbourInfo

------------------------------------------------------------
-- Neighbours In Another Order
------------------------------------------------------------

namespace NeighbourInfo

namespace Separation

variable {α : Type} [Scalar α]

/-
  The place of a value among joint distances: fewer than `k`
  rank before it, and at least `k` do not rank after it.
-/
structure IsRank
    (k : Nat)
    (others : List (Separation α))
    (e : α) :
    Prop where
  few_before :
    (others.countP fun s => Scalar.before s.joint e) < k
  enough_upTo :
    k ≤ others.countP fun s => !Scalar.before e s.joint

/-
  There are more neighbours than the `k` nearest ones only if
  the next one is further away than the last of them.
-/
def HasGap
    (k : Nat)
    (others : List (Separation α)) :
    Prop :=
  others.length ≤ k ∨
    Scalar.before (radius k others) (radius (k + 1) others)

variable [Scalar.LawfulOrder α]
variable {k : Nat} {others others' : List (Separation α)}

/- Values of one place are alike. -/
theorem IsRank.alike
    {e e' : α}
    (hFirst : IsRank k others e)
    (hSecond : IsRank k others e') :
    Scalar.Alike e e' := by
  have hNotBefore :
      ∀ {e e' : α}, IsRank k others e →
        IsRank k others e' → Scalar.RanksUpTo e' e := by
    intro e e' hFirst hSecond hBefore
    -- What does not rank after `e` ranks before `e'`, and there
    -- is more of it than may rank before `e'`.
    have hMore :
        (others.countP fun s => !Scalar.before e s.joint) ≤
          others.countP fun s => Scalar.before s.joint e' := by
      apply List.countP_mono_left
      intro s _ hUpTo
      apply Scalar.before_of_ranksUpTo _ hBefore
      simpa [Scalar.RanksUpTo] using hUpTo
    have hEnough := hFirst.enough_upTo
    have hFew := hSecond.few_before
    omega
  exact
    (hNotBefore hSecond hFirst).alike
      (hNotBefore hFirst hSecond)

/- The radius has its place, also where it is no number. -/
private theorem isRank_radius
    (hPos : 1 ≤ k)
    (hEnough : k ≤ others.length) :
    IsRank k others (radius k others) := by
  rcases exists_sorted_split hPos hEnough with
    ⟨near, far, s, hSorted, hLength, hRadius, hNear, hFar⟩
  have hPerm := List.mergeSort_perm others ranksUpTo
  have hSelf := Scalar.RanksUpTo.refl s.joint
  rw [hRadius]
  constructor
  · rw [← hPerm.countP_eq, hSorted, List.countP_append,
      List.countP_cons, if_neg hSelf,
      List.countP_eq_zero.mpr hFar]
    have hFew :
        (near.countP fun t => Scalar.before t.joint s.joint) ≤
          near.length := List.countP_le_length
    omega
  · have hAll :
        (near.countP fun t => !Scalar.before s.joint t.joint) =
          near.length := by
      rw [List.countP_eq_length]
      intro t hT
      simpa [Scalar.RanksUpTo] using hNear t hT
    rw [← hPerm.countP_eq, hSorted, List.countP_append,
      List.countP_cons, hAll, if_pos]
    · omega
    · simpa [Scalar.RanksUpTo] using hSelf

/- The radius does not depend on the order. -/
theorem radius_alike_of_perm
    (hPos : 1 ≤ k)
    (hPerm : others.Perm others') :
    Scalar.Alike (radius k others) (radius k others') := by
  by_cases hEnough : k ≤ others.length
  · have hRank := isRank_radius hPos hEnough
    rw [hPerm.length_eq] at hEnough
    have hRank' := isRank_radius hPos hEnough
    have hMoved : IsRank k others' (radius k others) := by
      constructor
      · rw [← hPerm.countP_eq]
        exact hRank.few_before
      · rw [← hPerm.countP_eq]
        exact hRank.enough_upTo
    exact hMoved.alike hRank'
  · have hNone :
        ∀ few : List (Separation α), few.length < k →
          radius k few = 0 := by
      intro few hFew
      rw [radius, List.getD_eq_default]
      rw [List.length_map, List.length_mergeSort]
      omega
    have hFew' := hPerm.length_eq
    rw [hNone others (by omega), hNone others' (by omega)]
    exact Scalar.Alike.refl 0

/- The nearest ones are no further away than the radius. -/
private theorem ranksUpTo_radius
    (hPos : 1 ≤ k)
    (hEnough : k ≤ others.length)
    {t : Separation α}
    (hMem : t ∈ nearest k others) :
    Scalar.RanksUpTo t.joint (radius k others) := by
  rcases exists_sorted_split hPos hEnough with
    ⟨near, far, s, hSorted, hLength, hRadius, hNear, -⟩
  have hNearest : nearest k others = near ++ [s] := by
    rw [nearest, hSorted, ← List.singleton_append,
      ← List.append_assoc]
    exact List.take_left' (by simp [hLength])
  rw [hNearest, List.mem_append] at hMem
  rw [hRadius]
  rcases hMem with hMem | hMem
  · exact hNear t hMem
  · rw [List.mem_singleton.mp hMem]
    exact Scalar.RanksUpTo.refl _

/- The others are no nearer than the next one is. -/
private theorem radius_ranksUpTo
    (hMore : k < others.length)
    {t : Separation α}
    (hMem : t ∈ (others.mergeSort ranksUpTo).drop k) :
    Scalar.RanksUpTo (radius (k + 1) others) t.joint := by
  rcases
      exists_sorted_split (Nat.le_add_left 1 k)
        (Nat.succ_le_of_lt hMore) with
    ⟨near, far, next, hSorted, hLength, hNext, -, hFar⟩
  rw [hSorted, List.drop_left' (Nat.succ.inj hLength)] at hMem
  rw [hNext]
  rcases List.mem_cons.mp hMem with rfl | hMem
  · exact Scalar.RanksUpTo.refl _
  · exact hFar t hMem

/-
  Behind a gap nothing is as near as the nearest ones, which
  can then be told by their distance alone.
-/
private theorem nearest_perm_filter
    (hPos : 1 ≤ k)
    (hMore : k < others.length)
    (hGap :
      Scalar.before (radius k others)
        (radius (k + 1) others)) :
    (nearest k others).Perm
      (others.filter fun s =>
        !Scalar.before (radius k others) s.joint) := by
  let sorted := others.mergeSort ranksUpTo
  have hPerm : sorted.Perm others :=
    List.mergeSort_perm others ranksUpTo
  have hFilter :
      sorted.filter (fun s =>
          !Scalar.before (radius k others) s.joint) =
        sorted.take k := by
    rw [← List.take_append_drop k sorted, List.filter_append,
      List.filter_eq_self.mpr, List.filter_eq_nil_iff.mpr,
      List.append_nil, List.take_append_drop]
    · intro t hT
      have hBehind :
          Scalar.before (radius k others) t.joint := by
        by_contra hNot
        exact (radius_ranksUpTo hMore hT).trans hNot hGap
      simp [hBehind]
    · intro t hT
      have hUpTo := ranksUpTo_radius hPos hMore.le hT
      simpa [Scalar.RanksUpTo] using hUpTo
  change (sorted.take k).Perm _
  rw [← hFilter]
  exact hPerm.filter _

/- Where there is no choice the same ones are the nearest. -/
theorem nearest_perm
    (hPos : 1 ≤ k)
    (hPerm : others.Perm others')
    (hGap : HasGap k others) :
    (nearest k others).Perm (nearest k others') := by
  have hLength := hPerm.length_eq
  by_cases hAll : others.length ≤ k
  · have hWhole :
        ∀ few : List (Separation α), few.length ≤ k →
          (nearest k few).Perm few := by
      intro few hFew
      rw [nearest, List.take_of_length_le]
      · exact List.mergeSort_perm few ranksUpTo
      · rwa [List.length_mergeSort]
    exact
      (hWhole others hAll).trans
        (hPerm.trans (hWhole others' (hLength ▸ hAll)).symm)
  · -- The nearest ones are told by the radius, and the radius
    -- and the gap behind it do not depend on the order.
    have hMore : k < others.length := Nat.lt_of_not_le hAll
    have hBefore := hGap.resolve_left hAll
    have hRadius := radius_alike_of_perm hPos hPerm
    have hNext :=
      radius_alike_of_perm (Nat.le_add_left 1 k) hPerm
    have hBefore' := hBefore
    rw [hRadius.before_eq hNext] at hBefore'
    have hSame :
        (fun s : Separation α =>
            !Scalar.before (radius k others) s.joint) =
          fun s =>
            !Scalar.before (radius k others') s.joint := by
      funext s
      rw [hRadius.before_eq (Scalar.Alike.refl s.joint)]
    have hFirst := nearest_perm_filter hPos hMore hBefore
    rw [hSame] at hFirst
    exact
      hFirst.trans
        ((hPerm.filter _).trans
          (nearest_perm_filter hPos (hLength ▸ hMore)
            hBefore').symm)

end Separation

namespace Counts

variable {α : Type}

theorem ofTests_perm
    (nearX : α → Bool)
    (nearY : α → Bool)
    (nearZ : α → Bool)
    {others others' : List (Separation α)}
    (hPerm : others.Perm others') :
    ofTests nearX nearY nearZ others =
      ofTests nearX nearY nearZ others' := by
  simp only [ofTests, hPerm.countP_eq]

variable [Scalar α] [Scalar.LawfulOrder α]

theorem inside_perm
    {radius radius' : α}
    (hRadius : Scalar.Alike radius radius')
    {others others' : List (Separation α)}
    (hPerm : others.Perm others') :
    inside radius others = inside radius' others' := by
  simp only [inside, hRadius.lt_right]
  exact ofTests_perm _ _ _ hPerm

/- Neither the order of the chosen points matters. -/
theorem within_perm
    {chosen chosen' : List (Separation α)}
    (hChosen : chosen.Perm chosen')
    {others others' : List (Separation α)}
    (hPerm : others.Perm others') :
    within chosen others = within chosen' others' := by
  have hReach :
      ∀ (part : Separation α → α) (a : α),
        Scalar.le a (Scalar.largest (chosen.map part)) =
          Scalar.le a (Scalar.largest (chosen'.map part)) := by
    intro part a
    exact
      (Scalar.largest_alike_of_perm
        (hChosen.map part)).le_right a
  simp only [within, hReach]
  exact ofTests_perm _ _ _ hPerm

end Counts

end NeighbourInfo

------------------------------------------------------------
-- Tables In Another Order
------------------------------------------------------------

namespace NeighbourInfo

namespace Table

variable {α : Type} {places : List Nat} {t : Table α}

/- All rows are there, in another order. -/
private theorem rows_pick_perm
    (hPlaces : places.Perm (List.range t.size)) :
    (t.pick places).rows.Perm t.rows := by
  have hMoved := hPlaces.map fun i => t.rows.getD i []
  have hAll := congrArg rows t.pick_range
  exact hMoved.trans (List.Perm.of_eq hAll)

variable [Scalar α] [Scalar.ExactSums α]

private theorem spread_perm
    {column column' : List α}
    (hPerm : column.Perm column') :
    spread column = spread column' := by
  rw [spread, spread, Scalar.deviation_perm hPerm]

/- Rows can be standardised before they are reordered. -/
theorem standardise_pick
    (hPlaces : places.Perm (List.range t.size)) :
    (t.pick places).standardise =
      t.standardise.pick places := by
  have hRows := rows_pick_perm hPlaces
  have hMeasures :
      ((t.pick places).columns.map fun column =>
          (Scalar.mean column, spread column)) =
        t.columns.map fun column =>
          (Scalar.mean column, spread column) := by
    rw [columns, columns, List.map_map, List.map_map]
    apply List.map_congr_left
    intro j _
    have hColumn := hRows.map fun row => row.getD j 0
    exact
      Prod.ext (Scalar.mean_perm hColumn) (spread_perm hColumn)
  unfold standardise
  rw [hMeasures]
  simp only [pick, List.map_map, mk.injEq, true_and]
  apply List.map_congr_left
  intro i _
  simp only [Function.comp_apply]
  rw [List.getD_eq_getElem?_getD, List.getD_eq_getElem?_getD,
    List.getElem?_map]
  cases t.rows[i]? with
  | none => rfl
  | some row => rfl

end Table

end NeighbourInfo

------------------------------------------------------------
-- Points In Another Order
------------------------------------------------------------

namespace NeighbourInfo

namespace Observations

variable {α : Type} [Scalar α]
variable {data : Observations α}

theorem standardise_pick
    [Scalar.ExactSums α]
    (hAligned : data.IsAligned)
    {places : List Nat}
    (hPlaces : places.Perm (List.range data.size)) :
    (data.pick places).standardise =
      data.standardise.pick places := by
  have hPlacesX : places.Perm (List.range data.x.size) :=
    hPlaces
  have hPlacesY : places.Perm (List.range data.y.size) := by
    rwa [hAligned.1]
  have hPlacesZ : places.Perm (List.range data.z.size) := by
    rwa [hAligned.2]
  simp only [standardise, pick,
    Table.standardise_pick hPlacesX,
    Table.standardise_pick hPlacesY,
    Table.standardise_pick hPlacesZ]

variable {norm : Norm} {window k : Nat} {s : Nat → Nat}

/- Points are as far from each other as they were. -/
theorem separation_pick
    {i j : Nat}
    (hPoint : i < data.size)
    (hOther : j < data.size) :
    (data.pick ((List.range data.size).map s)).separation norm
        i j =
      data.separation norm (s i) (s j) := by
  have hRow :
      ∀ (t : Table α), ∀ i < data.size,
        (t.pick ((List.range data.size).map s)).rows.getD i
            [] =
          t.rows.getD (s i) [] := by
    intro t i hI
    simp [Table.pick, hI]
  simp only [separation, pick, hRow _ i hPoint,
    hRow _ j hOther]

variable
  (hRelabelling : Window.IsRelabelling window data.size s)
include hRelabelling

/- A point has the separations it had, in another order. -/
theorem others_pick_perm
    {i : Nat}
    (hPoint : i < data.size) :
    ((data.pick ((List.range data.size).map s)).others norm
        window i).Perm
      (data.others norm window (s i)) := by
  have hMoved :
      (data.pick ((List.range data.size).map s)).others norm
          window i =
        ((Window.admissible window i data.size).map s).map
          (data.separation norm (s i)) := by
    rw [others, size_pick, List.length_map, List.length_range,
      List.map_map]
    apply List.map_congr_left
    intro j hJ
    exact
      separation_pick hPoint (Window.mem_admissible_iff.mp hJ).1
  rw [hMoved]
  exact (hRelabelling.admissible_perm hPoint).map _

/-
  The counts of a point go with it.  The second algorithm has
  to choose neighbours, for which there has to be a gap behind
  the last of them.
-/
theorem pointCounts_pick
    [Scalar.LawfulOrder α]
    (algorithm : Algorithm)
    (hPos : 1 ≤ k)
    {i : Nat}
    (hPoint : i < data.size)
    (hGap :
      algorithm = .second →
        Separation.HasGap k (data.others norm window (s i))) :
    (data.pick ((List.range data.size).map s)).pointCounts
        algorithm norm window k i =
      data.pointCounts algorithm norm window k (s i) := by
  have hPerm :
      (data.others norm window (s i)).Perm
        ((data.pick ((List.range data.size).map s)).others norm
          window i) :=
    (others_pick_perm hRelabelling hPoint).symm
  cases algorithm with
  | first =>
      exact
        (Counts.inside_perm
          (Separation.radius_alike_of_perm hPos hPerm)
          hPerm).symm
  | second =>
      exact
        (Counts.within_perm
          (Separation.nearest_perm hPos hPerm (hGap rfl))
          hPerm).symm

end Observations

end NeighbourInfo
