import NeighbourInfo.Method
import NeighbourInfo.Proofs.Recording

/-
  Failures do not depend on what was observed.

  Key definitions include:
    * `NeighbourInfo.FailAlike`
    * `NeighbourInfo.Kernel.IsIndependent`
    * `NeighbourInfo.Method.IsKraskov`

  How many points are admitted to a point depends on its place
  and on the number of points, and the ranks of these points
  on how many they are.  So of two sets of observations of one
  size the same points are refused, with the same error, and
  what is made up of points fails alike.

  This is proven by:
    * `NeighbourInfo.FailAlike.mapM`
    * `NeighbourInfo.Observations.failAlike_countsAt`
    * `NeighbourInfo.Kernel.isIndependent_counting`
    * `NeighbourInfo.Evaluation.failAlike_overBlocks`
    * `NeighbourInfo.Method.failAlike_average`
-/

------------------------------------------------------------
-- Failing Alike
------------------------------------------------------------

namespace NeighbourInfo

variable {ε β β' γ γ' ι : Type}

/- Two results have the same error, or none of them has one. -/
def FailAlike
    (x : Except ε β)
    (y : Except ε γ) :
    Prop :=
  ∀ e, x = .error e ↔ y = .error e

namespace FailAlike

theorem refl
    (x : Except ε β) :
    FailAlike x x :=
  fun _ => Iff.rfl

theorem of_ok
    (b : β)
    (c : γ) :
    FailAlike (.ok b : Except ε β) (.ok c : Except ε γ) := by
  intro e
  simp

/- Where the one succeeds the other does so too. -/
theorem exists_ok
    {x : Except ε β}
    {y : Except ε γ}
    (hAlike : FailAlike x y)
    {b : β}
    (hOk : x = .ok b) :
    ∃ c, y = .ok c := by
  cases y with
  | error e =>
      rw [(hAlike e).mpr rfl] at hOk
      cases hOk
  | ok c => exact ⟨c, rfl⟩

/- Two steps fail alike if each of them does. -/
theorem bind
    {x : Except ε β}
    {y : Except ε γ}
    {f : β → Except ε β'}
    {g : γ → Except ε γ'}
    (hFirst : FailAlike x y)
    (hNext :
      ∀ b c, x = .ok b → y = .ok c →
        FailAlike (f b) (g c)) :
    FailAlike (x.bind f) (y.bind g) := by
  cases x with
  | error e =>
      rw [(hFirst e).mp rfl]
      intro e'
      simp [Except.bind]
  | ok b =>
      rcases hFirst.exists_ok rfl with ⟨c, rfl⟩
      exact hNext b c rfl rfl

/- What is made of the results does not matter. -/
theorem map
    {x : Except ε β}
    {y : Except ε γ}
    (hAlike : FailAlike x y)
    (f : β → β')
    (g : γ → γ') :
    FailAlike (x.map f) (y.map g) := by
  cases x with
  | error e =>
      rw [(hAlike e).mp rfl]
      intro e'
      simp [Except.map]
  | ok b =>
      rcases hAlike.exists_ok rfl with ⟨c, rfl⟩
      exact of_ok _ _

/- So do as many steps as there are items. -/
theorem mapM
    {f : ι → Except ε β}
    {g : ι → Except ε γ}
    {items : List ι}
    (hEach : ∀ i ∈ items, FailAlike (f i) (g i)) :
    FailAlike (items.mapM f) (items.mapM g) := by
  induction items with
  | nil => exact of_ok _ _
  | cons i items ih =>
      have hHead := hEach i List.mem_cons_self
      have hTail :=
        ih fun j hJ => hEach j (List.mem_cons_of_mem _ hJ)
      rw [List.mapM_cons, List.mapM_cons]
      refine hHead.bind fun b c _ _ => ?_
      exact hTail.bind fun bs cs _ _ => of_ok _ _

end FailAlike

end NeighbourInfo

------------------------------------------------------------
-- Points
------------------------------------------------------------

namespace NeighbourInfo

namespace Window

/- How many are kept depends on how many there are. -/
theorem length_keep
    {β : Type}
    (window : Int)
    (i : Int)
    (items : List β) :
    (keep window i items).length =
      (List.range items.length).countP
        (admits window i items.length) := by
  have hPlaces :
      items.zipIdx.map Prod.snd = List.range items.length := by
    rw [List.zipIdx_map_snd, List.range_eq_range']
  rw [← hPlaces, List.countP_map, keep, List.length_map,
    ← List.countP_eq_length_filter]
  rfl

end Window

namespace Counts

variable {α : Type} [Scalar α]

/- Ranks are refused by the number of points alone. -/
theorem failAlike_ofSeparations
    (algorithm : Algorithm)
    (k : Int)
    {others others' : List (Separation α)}
    (hLength : others'.length = others.length) :
    FailAlike (ofSeparations algorithm k others)
      (ofSeparations algorithm k others') := by
  have hEmpty : others'.isEmpty = others.isEmpty := by
    rw [Bool.eq_iff_iff, List.isEmpty_iff_length_eq_zero,
      List.isEmpty_iff_length_eq_zero, hLength]
  unfold ofSeparations
  rw [hLength]
  by_cases hLow : k ≤ -0x8000000000000000
  · rw [if_pos hLow, if_pos hLow]
    exact .refl _
  · rw [if_neg hLow, if_neg hLow]
    cases algorithm with
    | first =>
        cases Separation.rank? k others.length with
        | some rank => exact .of_ok _ _
        | none =>
            dsimp only
            rw [noRadius, noRadius, hEmpty]
            exact .refl _
    | second =>
        cases Separation.rank? k others.length with
        | some rank =>
            dsimp only
            by_cases hZero : k = 0
            · rw [if_pos hZero, if_pos hZero]
              exact .refl _
            · rw [if_neg hZero, if_neg hZero]
              exact .of_ok _ _
        | none => exact .refl _

end Counts

namespace Search

variable {α : Type} [Scalar α]

theorem failAlike_counts
    (search : Search α)
    (algorithm : Algorithm)
    (point : Int)
    {all all' : List (Separation α)}
    (hLength : all'.length = all.length) :
    FailAlike (search.counts algorithm point all)
      (search.counts algorithm point all') := by
  have hKept :
      (Window.keep search.window point all').length =
        (Window.keep search.window point all).length := by
    rw [Window.length_keep, Window.length_keep, hLength]
  unfold counts
  dsimp only
  rw [hKept]
  refine (FailAlike.refl _).bind fun k k' hK hK' => ?_
  rw [hK] at hK'
  cases hK'
  exact Counts.failAlike_ofSeparations algorithm k hKept

end Search

namespace Observations

variable {α : Type} [Scalar α]

/- A point is refused whatever was observed. -/
theorem failAlike_countsAt
    {data data' : Observations α}
    (hAligned : data.IsAligned)
    (hAligned' : data'.IsAligned)
    (hSize : data'.size = data.size)
    {i : Nat}
    (hPoint : i < data.size)
    (algorithm : Algorithm)
    (search : Search α) :
    FailAlike (data.countsAt algorithm search i)
      (data'.countsAt algorithm search i) := by
  rcases separations_distancesAt hAligned hPoint search.norm
    with ⟨d, hDistances, hEven, hAll⟩
  rcases
      separations_distancesAt hAligned' (hSize ▸ hPoint)
        search.norm with
    ⟨d', hDistances', hEven', hAll'⟩
  rw [countsAt, countsAt, hDistances, hDistances']
  change
    FailAlike (d.counts search algorithm i)
      (d'.counts search algorithm i)
  rw [Distances.counts_of_isEven hEven,
    Distances.counts_of_isEven hEven', hAll, hAll']
  apply Search.failAlike_counts
  rw [List.length_map, List.length_map, hSize]

end Observations

end NeighbourInfo

------------------------------------------------------------
-- Kernels
------------------------------------------------------------

namespace NeighbourInfo

namespace Kernel

section Kernels

variable {α : Type}

/- Which sums fail depends on how many points there are. -/
def IsIndependent
    (kernel : Kernel α) :
    Prop :=
  ∀ (config : Config α) (data data' : Observations α),
    data.IsAligned → data'.IsAligned →
      data'.size = data.size →
        ∀ start m : Nat, start + m ≤ data.size →
          FailAlike (kernel.sums config data ⟨start, m⟩)
            (kernel.sums config data' ⟨start, m⟩)

/- A kernel that fails on some blocks does so by their start. -/
theorem IsIndependent.failingFrom
    {kernel : Kernel α}
    (hIndependent : kernel.IsIndependent)
    (first : Int) :
    (kernel.failingFrom first).IsIndependent := by
  intro config data data' hAligned hAligned' hSize start m
    hBlock
  simp only [Kernel.failingFrom]
  split
  · exact .refl _
  · exact
      hIndependent config data data' hAligned hAligned' hSize
        start m hBlock

theorem isIndependent_missing :
    (missing : Kernel α).IsIndependent := by
  intro config data data' _ _ _ start m _
  exact .refl _

end Kernels

variable {α : Type} [Scalar α]

theorem isIndependent_counting :
    (counting : Kernel α).IsIndependent := by
  intro config data data' hAligned hAligned' hSize start m
    hBlock
  have hLength : ¬ (m : Int) < 0 := by omega
  have hCounts :
      FailAlike (blockCounts config data ⟨start, m⟩)
        (blockCounts config data' ⟨start, m⟩) := by
    rw [blockCounts, blockCounts, if_neg hLength,
      if_neg hLength, Block.points_natCast, List.mapM_map,
      List.mapM_map]
    apply FailAlike.mapM
    intro i hI
    have hPoint : i < data.size := by
      have hEnd := (List.mem_range'_1.mp hI).2
      omega
    exact
      Observations.failAlike_countsAt hAligned hAligned' hSize
        hPoint _ _
  exact hCounts.bind fun _ _ _ _ => .of_ok _ _

end Kernel

end NeighbourInfo

------------------------------------------------------------
-- Evaluations
------------------------------------------------------------

namespace NeighbourInfo

namespace Evaluation

variable {α β : Type} [Scalar α]

/- All points fail alike if blocks of them do. -/
theorem failAlike_overBlocks
    (config : Config α)
    {n : Nat}
    {contribute contribute' : Block → Except (Error α) β}
    (hEach :
      ∀ start m : Nat, start + m ≤ n →
        FailAlike (contribute ⟨start, m⟩)
          (contribute' ⟨start, m⟩))
    (merge : List (Block × β) → β) :
    FailAlike (overBlocks config n contribute merge).result
      (overBlocks config n contribute' merge).result := by
  unfold overBlocks
  simp only [Report.result_bind]
  refine (FailAlike.refl _).bind fun isFew _ _ _ => ?_
  refine (FailAlike.refl _).bind fun _ _ _ _ => ?_
  by_cases hSingle : config.threads.toNat = 1
  · rw [if_pos hSingle, if_pos hSingle]
    simp only [Report.result_bind, Report.result_ofExcept]
    refine (hEach 0 n (by omega)).bind fun _ _ _ _ => ?_
    exact .of_ok _ _
  · rw [if_neg hSingle, if_neg hSingle]
    simp only [Report.result_bind, Report.result_ofExcept]
    refine (FailAlike.refl _).bind fun blocks bs hSplit hBs => ?_
    rw [hSplit] at hBs
    cases hBs
    refine (FailAlike.refl _).bind fun _ _ _ _ => ?_
    have hTiles := (Block.tiles_of_split hSplit).2
    have hParts :
        FailAlike (blocks.mapM contribute)
          (blocks.mapM contribute') := by
      apply FailAlike.mapM
      intro b hB
      rcases hTiles.eq_of_mem hB with ⟨start, m, rfl, hFits⟩
      exact hEach start m hFits
    exact hParts.bind fun _ _ _ _ => .of_ok _ _

/- The average fails alike for observations of one size. -/
theorem failAlike_average
    {kernel : Kernel α}
    (hIndependent : kernel.IsIndependent)
    (config : Config α)
    {data data' : Observations α}
    (hAligned : data.IsAligned)
    (hAligned' : data'.IsAligned)
    (hSize : data'.size = data.size) :
    FailAlike (average kernel config data).result
      (average kernel config data').result := by
  unfold average
  rw [hSize]
  simp only [Report.result_bind]
  refine
    (failAlike_overBlocks config
      (hIndependent config data data' hAligned hAligned'
        hSize) _).bind fun _ _ _ _ => ?_
  refine (FailAlike.refl _).bind fun k k' hK hK' => ?_
  exact .of_ok _ _

end Evaluation

end NeighbourInfo

------------------------------------------------------------
-- Methods
------------------------------------------------------------

namespace NeighbourInfo

namespace Method

variable {α : Type} [Scalar α]

/-
  The methods by which neighbours are counted: either of the
  algorithms, also with a kernel that fails on some blocks,
  and what lacks a kernel or an algorithm.
-/
inductive IsKraskov :
    Method α → Prop where
  | counting (algorithm : Algorithm) :
      IsKraskov (counting algorithm)
  | failingFrom (start : Int) (algorithm : Algorithm) :
      IsKraskov (failingFrom start algorithm)
  | withoutKernel (algorithm : Algorithm) :
      IsKraskov (withoutKernel algorithm)
  | undecided : IsKraskov undecided

theorem IsKraskov.isIndependent
    {m : Method α}
    (hKraskov : m.IsKraskov) :
    m.kernel.IsIndependent := by
  cases hKraskov with
  | counting algorithm => exact Kernel.isIndependent_counting
  | failingFrom start algorithm =>
      exact Kernel.isIndependent_counting.failingFrom start
  | withoutKernel algorithm =>
      exact Kernel.isIndependent_missing
  | undecided => exact Kernel.isIndependent_missing

theorem failAlike_average
    {m : Method α}
    (hKraskov : m.IsKraskov)
    (settings : Settings α)
    {data data' : Observations α}
    (hAligned : data.IsAligned)
    (hAligned' : data'.IsAligned)
    (hSize : data'.size = data.size) :
    FailAlike (m.average settings data).result
      (m.average settings data').result := by
  unfold average
  simp only [Report.result_bind, Report.result_ofExcept]
  refine (FailAlike.refl _).bind fun config other hC hO => ?_
  rw [hC] at hO
  cases hO
  exact
    Evaluation.failAlike_average hKraskov.isIndependent config
      hAligned hAligned' hSize

end Method

end NeighbourInfo
