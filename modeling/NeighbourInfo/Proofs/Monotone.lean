import NeighbourInfo.Proofs.Nearest
import NeighbourInfo.Proofs.Refusal
import NeighbourInfo.Search

/-
  Distances under a function that keeps their order.

  Key definitions include:
    * `NeighbourInfo.Scalar.KeepsOrder`
    * `NeighbourInfo.Separation.map`
    * `NeighbourInfo.Distances.map`

  A search only compares distances with each other, and takes
  the larger of two.  It finds the same neighbours and counts
  the same points when all distances are replaced by values in
  the same order, the distances of different variables by one
  and the same function.

  This is proven by:
    * `NeighbourInfo.Scalar.KeepsOrder.joint_map`
    * `NeighbourInfo.Scalar.KeepsOrder.radius_map`
    * `NeighbourInfo.Scalar.KeepsOrder.isNearest_map_iff`
    * `NeighbourInfo.Scalar.KeepsOrder.counts_map`
-/

------------------------------------------------------------
-- Functions That Keep An Order
------------------------------------------------------------

namespace NeighbourInfo

namespace Scalar

variable {α : Type} [Scalar α]

/-
  The function keeps the order of some values, and numbers are
  those that were numbers.
-/
structure KeepsOrder
    (f : α → α)
    (among : Set α) :
    Prop where
  isNumber_iff :
    ∀ {a}, a ∈ among → (IsNumber (f a) ↔ IsNumber a)
  lt_iff :
    ∀ {a b}, a ∈ among → b ∈ among →
      (lt (f a) (f b) ↔ lt a b)

namespace KeepsOrder

variable {f : α → α} {among : Set α} {a b : α}

theorem lt_map
    (hKeeps : KeepsOrder f among)
    (hA : a ∈ among)
    (hB : b ∈ among) :
    lt (f a) (f b) = lt a b := by
  rw [Bool.eq_iff_iff]
  exact hKeeps.lt_iff hA hB

theorem isNaN_map
    (hKeeps : KeepsOrder f among)
    (hA : a ∈ among) :
    isNaN (f a) = isNaN a := by
  have hNumber := hKeeps.isNumber_iff hA
  simp only [IsNumber, not_iff_not] at hNumber
  rw [Bool.eq_iff_iff]
  exact hNumber

theorem before_map
    (hKeeps : KeepsOrder f among)
    (hA : a ∈ among)
    (hB : b ∈ among) :
    before (f a) (f b) = before a b := by
  rw [before, before, hKeeps.lt_map hA hB, hKeeps.isNaN_map hA,
    hKeeps.isNaN_map hB]

theorem le_map
    [LawfulOrder α]
    (hKeeps : KeepsOrder f among)
    (hA : a ∈ among)
    (hB : b ∈ among) :
    le (f a) (f b) = le a b := by
  rw [Bool.eq_iff_iff, le_iff, le_iff, hKeeps.isNumber_iff hA,
    hKeeps.isNumber_iff hB, hKeeps.lt_iff hB hA]

/- The larger of two values becomes the larger one. -/
theorem larger_map
    (hKeeps : KeepsOrder f among)
    (hA : a ∈ among)
    (hB : b ∈ among) :
    larger (f a) (f b) = f (larger a b) := by
  simp only [larger, hKeeps.isNaN_map hA, hKeeps.isNaN_map hB,
    hKeeps.lt_map hA hB, apply_ite f]

omit [Scalar α] in
private theorem mem_of_eq_or
    (hA : a ∈ among)
    (hB : b ∈ among)
    {c : α}
    (hEither : c = a ∨ c = b) :
    c ∈ among := by
  rcases hEither with rfl | rfl
  · exact hA
  · exact hB

theorem larger_mem
    (hA : a ∈ among)
    (hB : b ∈ among) :
    larger a b ∈ among :=
  mem_of_eq_or hA hB (larger_eq_or a b)

/- The largest of some values becomes the largest one. -/
theorem largest_map
    (hKeeps : KeepsOrder f among)
    {as : List α}
    (hSome : as ≠ [])
    (hAmong : ∀ a ∈ as, a ∈ among) :
    largest (as.map f) = f (largest as) := by
  have hFold :
      ∀ (as : List α) (a : α), (∀ b ∈ a :: as, b ∈ among) →
        (as.map f).foldl larger (f a) =
          f (as.foldl larger a) := by
    intro as
    induction as with
    | nil =>
        intro a _
        rfl
    | cons b as ih =>
        intro a hAmong
        have hA := hAmong a (by simp)
        have hB := hAmong b (by simp)
        rw [List.map_cons, List.foldl_cons, List.foldl_cons,
          hKeeps.larger_map hA hB]
        apply ih
        intro c hC
        rcases List.mem_cons.mp hC with rfl | hC
        · exact larger_mem hA hB
        · exact hAmong c (by simp [hC])
  cases as with
  | nil => exact absurd rfl hSome
  | cons a as => exact hFold as a hAmong

end KeepsOrder

end Scalar

end NeighbourInfo

------------------------------------------------------------
-- Separations
------------------------------------------------------------

namespace NeighbourInfo

namespace Separation

variable {α : Type}

/- A function is applied to the distance of each variable. -/
def map
    (f : α → α)
    (s : Separation α) :
    Separation α :=
  ⟨f s.x, f s.y, f s.z⟩

/- All three distances are among some values. -/
def IsAmong
    (among : Set α)
    (s : Separation α) :
    Prop :=
  s.x ∈ among ∧ s.y ∈ among ∧ s.z ∈ among

theorem IsAmong.joint_mem
    [Scalar α]
    {among : Set α}
    {s : Separation α}
    (hAmong : s.IsAmong among) :
    s.joint ∈ among :=
  Scalar.KeepsOrder.larger_mem
    (Scalar.KeepsOrder.larger_mem hAmong.1 hAmong.2.1)
    hAmong.2.2

end Separation

/- The rank is one of those that some points can have. -/
theorem Separation.rank?_bounds
    {k : Int}
    {m rank : Nat}
    (hEnough : k ≤ m)
    (hRank : rank? k m = some rank) :
    1 ≤ rank ∧ rank ≤ m := by
  unfold rank? at hRank
  split at hRank
  · cases hRank
    omega
  · split at hRank
    · cases hRank
      omega
    · cases hRank

namespace Scalar.KeepsOrder

open Separation

variable {α : Type} [Scalar α]
variable {f : α → α} {among : Set α}
variable (hKeeps : KeepsOrder f among)
include hKeeps

theorem joint_map
    {s : Separation α}
    (hAmong : s.IsAmong among) :
    (s.map f).joint = f s.joint := by
  rcases hAmong with ⟨hX, hY, hZ⟩
  rw [joint, joint, Separation.map, hKeeps.larger_map hX hY,
    hKeeps.larger_map (larger_mem hX hY) hZ]

theorem ranksUpTo_map
    {s t : Separation α}
    (hS : s.IsAmong among)
    (hT : t.IsAmong among) :
    (s.map f).ranksUpTo (t.map f) = s.ranksUpTo t := by
  rw [ranksUpTo, ranksUpTo, hKeeps.joint_map hS,
    hKeeps.joint_map hT,
    hKeeps.before_map hT.joint_mem hS.joint_mem]

variable {others : List (Separation α)}
variable (hAmong : ∀ s ∈ others, s.IsAmong among)
include hAmong

/- Neighbours rank as before, equal ones among each other. -/
theorem mergeSort_map :
    (others.map (Separation.map f)).mergeSort ranksUpTo =
      (others.mergeSort ranksUpTo).map (Separation.map f) := by
  symm
  apply List.map_mergeSort
  intro s hS t hT
  exact (hKeeps.ranksUpTo_map (hAmong s hS) (hAmong t hT)).symm

/- The same neighbours are the nearest ones. -/
theorem nearest_map
    (k : Nat) :
    nearest k (others.map (Separation.map f)) =
      (nearest k others).map (Separation.map f) := by
  rw [nearest, nearest, hKeeps.mergeSort_map hAmong,
    List.map_take]

theorem radius_map
    {k : Nat}
    (hPos : 1 ≤ k)
    (hEnough : k ≤ others.length) :
    radius k others ∈ among ∧
      radius k (others.map (Separation.map f)) =
        f (radius k others) := by
  have hRank :
      k - 1 < (others.mergeSort ranksUpTo).length := by
    rw [List.length_mergeSort]
    omega
  have hRank' :
      k - 1 <
        ((others.map (Separation.map f)).mergeSort
          ranksUpTo).length := by
    rw [List.length_mergeSort, List.length_map]
    omega
  have hMem :
      ((others.mergeSort ranksUpTo)[k - 1]).IsAmong among :=
    hAmong _ (List.mem_mergeSort.mp (List.getElem_mem hRank))
  rw [radius_eq_joint hRank, radius_eq_joint hRank']
  simp only [hKeeps.mergeSort_map hAmong, List.getElem_map]
  exact ⟨hMem.joint_mem, hKeeps.joint_map hMem⟩

/- In each variable the furthest one stays the furthest. -/
omit hAmong in
theorem largest_map_map
    {chosen : List (Separation α)}
    (hSome : chosen ≠ [])
    (part : Separation α → α)
    (hPart : ∀ s, part (s.map f) = f (part s))
    (hMem : ∀ s ∈ chosen, part s ∈ among) :
    largest (chosen.map part) ∈ among ∧
      largest ((chosen.map (Separation.map f)).map part) =
        f (largest (chosen.map part)) := by
  have hParts : chosen.map part ≠ [] := by simpa using hSome
  have hAll : ∀ a ∈ chosen.map part, a ∈ among :=
    List.forall_mem_map.mpr hMem
  have hEq :
      (chosen.map (Separation.map f)).map part =
        (chosen.map part).map f := by
    rw [List.map_map, List.map_map]
    apply List.map_congr_left
    intro s _
    exact hPart s
  rw [hEq]
  exact
    ⟨hAll _ (largest_mem hParts), hKeeps.largest_map hParts hAll⟩

/- Any choice of nearest points is one after as before. -/
omit hAmong in
theorem isNearest_map_iff
    {separation : Nat → Separation α}
    {k : Nat}
    {points chosen : List Nat}
    (hPoints :
      ∀ i ∈ points, (separation i).IsAmong among) :
    IsNearest (fun i => (separation i).map f) k points
        chosen ↔
      IsNearest separation k points chosen := by
  have hRanks :
      chosen ⊆ points →
        ((∀ i ∈ chosen, ∀ j ∈ points, j ∉ chosen →
            Scalar.RanksUpTo ((separation i).map f).joint
              ((separation j).map f).joint) ↔
          ∀ i ∈ chosen, ∀ j ∈ points, j ∉ chosen →
            Scalar.RanksUpTo (separation i).joint
              (separation j).joint) := by
    intro hSubset
    refine forall₂_congr fun i hI => ?_
    refine forall₂_congr fun j hJ => ?_
    rw [← ranksUpTo_iff, ← ranksUpTo_iff,
      hKeeps.ranksUpTo_map (hPoints i (hSubset hI))
        (hPoints j hJ)]
  constructor
  · rintro ⟨hNodup, hSubset, hLength, hUpTo⟩
    exact ⟨hNodup, hSubset, hLength, (hRanks hSubset).mp hUpTo⟩
  · rintro ⟨hNodup, hSubset, hLength, hUpTo⟩
    exact
      ⟨hNodup, hSubset, hLength, (hRanks hSubset).mpr hUpTo⟩

end Scalar.KeepsOrder

end NeighbourInfo

------------------------------------------------------------
-- Counts
------------------------------------------------------------

namespace NeighbourInfo

/- As many are counted where each is near that was before. -/
theorem Counts.ofTests_map
    {α β : Type}
    {nearX nearY nearZ : α → Bool}
    {nearX' nearY' nearZ' : β → Bool}
    {f : Separation α → Separation β}
    {others : List (Separation α)}
    (hX : ∀ s ∈ others, nearX' (f s).x = nearX s.x)
    (hY : ∀ s ∈ others, nearY' (f s).y = nearY s.y)
    (hZ : ∀ s ∈ others, nearZ' (f s).z = nearZ s.z) :
    ofTests nearX' nearY' nearZ' (others.map f) =
      ofTests nearX nearY nearZ others := by
  simp only [ofTests, List.countP_map, Function.comp_def]
  congr 1
  · apply List.countP_congr
    intro s hS
    rw [hZ s hS, hX s hS]
  · apply List.countP_congr
    intro s hS
    rw [hZ s hS, hY s hS]
  · apply List.countP_congr
    intro s hS
    rw [hZ s hS]

namespace Scalar.KeepsOrder

variable {α : Type} [Scalar α]
variable {f : α → α} {among : Set α}
variable (hKeeps : KeepsOrder f among)
include hKeeps

variable {others : List (Separation α)}
variable (hAmong : ∀ s ∈ others, s.IsAmong among)
include hAmong

theorem inside_map
    {radius : α}
    (hRadius : radius ∈ among) :
    Counts.inside (f radius)
        (others.map (Separation.map f)) =
      Counts.inside radius others := by
  apply Counts.ofTests_map
  · intro s hS
    exact hKeeps.lt_map (hAmong s hS).1 hRadius
  · intro s hS
    exact hKeeps.lt_map (hAmong s hS).2.1 hRadius
  · intro s hS
    exact hKeeps.lt_map (hAmong s hS).2.2 hRadius

variable [LawfulOrder α]

/- Whichever points are chosen, as many are within them. -/
theorem within_map
    {chosen : List (Separation α)}
    (hSome : chosen ≠ [])
    (hChosen : ∀ s ∈ chosen, s.IsAmong among) :
    Counts.within (chosen.map (Separation.map f))
        (others.map (Separation.map f)) =
      Counts.within chosen others := by
  have hX := hKeeps.largest_map_map hSome (·.x)
    (fun _ => rfl) fun s hS => (hChosen s hS).1
  have hY := hKeeps.largest_map_map hSome (·.y)
    (fun _ => rfl) fun s hS => (hChosen s hS).2.1
  have hZ := hKeeps.largest_map_map hSome (·.z)
    (fun _ => rfl) fun s hS => (hChosen s hS).2.2
  rw [Counts.within, Counts.within, hX.2, hY.2, hZ.2]
  apply Counts.ofTests_map
  · intro s hS
    exact hKeeps.le_map (hAmong s hS).1 hX.1
  · intro s hS
    exact hKeeps.le_map (hAmong s hS).2.1 hY.1
  · intro s hS
    exact hKeeps.le_map (hAmong s hS).2.2 hZ.1

/- Each algorithm counts the same for up to all neighbours. -/
theorem ofSeparations_map
    {k : Int}
    (hEnough : k ≤ others.length)
    (algorithm : Algorithm) :
    Counts.ofSeparations algorithm k
        (others.map (Separation.map f)) =
      Counts.ofSeparations algorithm k others := by
  unfold Counts.ofSeparations
  rw [List.length_map]
  split
  · rfl
  cases hRank : Separation.rank? k others.length with
  | none =>
      cases algorithm with
      | first => simp [Counts.noRadius]
      | second => rfl
  | some rank =>
      rcases Separation.rank?_bounds hEnough hRank with
        ⟨hPos, hMost⟩
      rcases hKeeps.radius_map hAmong hPos hMost with
        ⟨hRadius, hMap⟩
      cases algorithm with
      | first =>
          dsimp only
          rw [hMap, hKeeps.inside_map hAmong hRadius]
      | second =>
          have hLength :=
            Separation.length_nearest rank others
          have hSome : Separation.nearest rank others ≠ [] := by
            rw [← List.length_pos_iff, hLength]
            omega
          dsimp only
          rw [hKeeps.nearest_map hAmong,
            hKeeps.within_map hAmong hSome fun s hS =>
              hAmong s (Separation.mem_of_mem_nearest hS)]

end Scalar.KeepsOrder

end NeighbourInfo

------------------------------------------------------------
-- Searches
------------------------------------------------------------

namespace NeighbourInfo

/- What is kept does not depend on what the items are. -/
theorem Window.keep_map
    {β γ : Type}
    (window : Int)
    (i : Int)
    (f : β → γ)
    (items : List β) :
    keep window i (items.map f) =
      (keep window i items).map f := by
  simp only [keep, List.zipIdx_map, List.filter_map,
    List.map_map, List.length_map]
  rfl

namespace Window

theorem mem_of_mem_keep
    {β : Type}
    {window : Int}
    {i : Int}
    {items : List β}
    {b : β}
    (hKept : b ∈ keep window i items) :
    b ∈ items := by
  rcases List.mem_map.mp hKept with ⟨item, hItem, rfl⟩
  have hIndexed := List.mem_of_mem_filter hItem
  rw [List.mem_zipIdx_iff_getElem?] at hIndexed
  exact List.mem_of_getElem? hIndexed

end Window

/- No more neighbours are asked for than there are points. -/
theorem Search.le_of_neighbours
    {α : Type} [Scalar α]
    {search : Search α}
    {point : Int}
    {found : Nat}
    {k : Int}
    (hOk : search.neighbours point found = .ok k) :
    k ≤ found := by
  rcases exists_of_bind_eq_ok hOk with ⟨⟨⟩, hEnough, hWhole⟩
  rcases exists_of_bind_eq_ok hEnough with
    ⟨isAbove, hAbove, hChecked⟩
  cases isAbove with
  | true => cases hChecked
  | false =>
      unfold Value.isAbove at hAbove
      unfold Value.exactInt at hWhole
      split at hWhole
      · next b hK =>
          rw [hK] at hAbove
          cases hWhole
          simpa using hAbove
      · next n hK =>
          rw [hK] at hAbove
          cases hWhole
          simpa using hAbove
      · cases hWhole

namespace Distances

variable {α : Type}

/- A function is applied to all distances. -/
def map
    (f : α → α)
    (d : Distances α) :
    Distances α :=
  ⟨d.x.map f, d.y.map f, d.z.map f⟩

/- All distances are among some values. -/
def IsAmong
    (among : Set α)
    (d : Distances α) :
    Prop :=
  (∀ a ∈ d.x, a ∈ among) ∧ (∀ a ∈ d.y, a ∈ among) ∧
    ∀ a ∈ d.z, a ∈ among

theorem isEven_map
    (f : α → α)
    (d : Distances α) :
    (d.map f).isEven = d.isEven := by
  simp [isEven, map]

/- The separations of the same points, in the same order. -/
private theorem separations_map
    {d : Distances α}
    (hEven : d.isEven)
    (f : α → α) :
    (d.map f).separations =
      d.separations.map (List.map (Separation.map f)) := by
  have hEven' : (d.map f).isEven := by
    rwa [isEven_map]
  rw [separations_of_isEven hEven, separations_of_isEven hEven']
  simp only [map, List.zip_map, List.map_map, Except.map]
  rfl

private theorem isAmong_of_separations
    {among : Set α}
    {d : Distances α}
    (hEven : d.isEven)
    (hAmong : d.IsAmong among)
    {all : List (Separation α)}
    (hAll : d.separations = .ok all)
    {s : Separation α}
    (hMem : s ∈ all) :
    s.IsAmong among := by
  rw [separations_of_isEven hEven] at hAll
  cases hAll
  rcases List.mem_map.mp hMem with ⟨⟨x, y, z⟩, hZip, rfl⟩
  have hRest := (List.of_mem_zip hZip).2
  exact
    ⟨hAmong.1 x (List.of_mem_zip hZip).1,
      hAmong.2.1 y (List.of_mem_zip hRest).1,
      hAmong.2.2 z (List.of_mem_zip hRest).2⟩

end Distances

namespace Scalar.KeepsOrder

variable {α : Type} [Scalar α] [LawfulOrder α]
variable {f : α → α} {among : Set α}

/-
  The counts of a point depend on its distances through their
  order alone, those of different variables included.
-/
theorem counts_map
    (hKeeps : KeepsOrder f among)
    {d : Distances α}
    (hEven : d.isEven)
    (hAmong : d.IsAmong among)
    (search : Search α)
    (algorithm : Algorithm)
    (point : Int) :
    (d.map f).counts search algorithm point =
      d.counts search algorithm point := by
  have hEven' : (d.map f).isEven := by
    rwa [Distances.isEven_map]
  rw [Distances.counts_of_isEven hEven,
    Distances.counts_of_isEven hEven',
    Distances.separations_map hEven]
  cases hAll : d.separations with
  | error e => rfl
  | ok all =>
      have hOthers :
          ∀ s ∈ Window.keep search.window point all,
            s.IsAmong among := by
        intro s hS
        exact
          Distances.isAmong_of_separations hEven hAmong hAll
            (Window.mem_of_mem_keep hS)
      change
        search.counts algorithm point _ =
          search.counts algorithm point all
      unfold Search.counts
      rw [Window.keep_map]
      dsimp only
      rw [List.length_map]
      cases hNeighbours : search.neighbours point _ with
      | error e => rfl
      | ok k =>
          exact
            hKeeps.ofSeparations_map hOthers
              (Search.le_of_neighbours hNeighbours) algorithm

end Scalar.KeepsOrder

end NeighbourInfo
