import NeighbourInfo.Proofs.Scalar.Rational
import NeighbourInfo.Proofs.Session.Counting

/-
  The mean of the local values.

  A local value and the closing formula of the average are
  computed apart from each other: the one from the counts of a
  point, the other from six sums over all points, which were
  added up block by block.  In exact arithmetic the mean of
  the one is the other, whatever `digamma` is.

  This is proven by:
    * `NeighbourInfo.Sums.average_ofCounts`
    * `NeighbourInfo.Context.mean_locals_eq_average`
-/

------------------------------------------------------------
-- The Closing Formula
------------------------------------------------------------

namespace NeighbourInfo

namespace Sums

variable {α : Type} [Scalar α] [Scalar.ExactArithmetic α]

/- The closing formula gives the mean of the local values. -/
theorem average_ofCounts
    (algorithm : Algorithm)
    (k : α)
    {counts : List Counts}
    (hSome : counts ≠ []) :
    ((ofCounts algorithm counts).dividedBy
        (Scalar.ofNat counts.length)).average algorithm k =
      Scalar.mean
        (counts.map (Counts.localValue algorithm k)) := by
  cases algorithm with
  | first =>
      have hMean :=
        Scalar.mean_map_add (Scalar.digamma k)
          (Counts.digammas (α := α) .first) hSome
      exact hMean.symm
  | second =>
      -- All terms but the first two belong to a point.
      let base : α := Scalar.digamma k - Scalar.ofInt 2 / k
      let terms (c : Counts) : α := c.digammas .second
      let inverseXZ (c : Counts) : α := Counts.inverse c.xz
      let inverseYZ (c : Counts) : α := Counts.inverse c.yz
      have hLocal :
          Counts.localValue .second k = fun c =>
            base + (terms c + inverseXZ c + inverseYZ c) := by
        funext c
        change base + terms c + inverseXZ c + inverseYZ c = _
        rw [Scalar.ExactSums.add_assoc,
          Scalar.ExactSums.add_assoc,
          Scalar.ExactSums.add_assoc (terms c)]
      rw [hLocal, Scalar.mean_map_add base _ hSome,
        Scalar.sum_map_add, Scalar.sum_map_add,
        Scalar.ExactArithmetic.add_div,
        Scalar.ExactArithmetic.add_div,
        ← Scalar.ExactSums.add_assoc,
        ← Scalar.ExactSums.add_assoc]
      rfl

end Sums

end NeighbourInfo

------------------------------------------------------------
-- Local Values And The Average
------------------------------------------------------------

namespace NeighbourInfo

namespace Context

variable {α : Type}

/- The estimator computes with another number of threads. -/
def withThreads
    (threads : ThreadCount)
    (c : Context α) :
    Context α :=
  { c with
    estimator :=
      { c.estimator with
        settings :=
          { c.estimator.settings with threads := threads } } }

variable [Scalar α] [Literal α]
variable {algorithm : Algorithm} {k : Nat}
variable {data : Observations α} {c : Context α}

omit [Literal α] in
theorem isCounting_withThreads
    (hCounting : c.estimator.IsCounting algorithm k data)
    {threads : ThreadCount}
    (hThreads : 1 ≤ threads.toNat) :
    (c.withThreads threads).estimator.IsCounting algorithm k
      data :=
  { hCounting with one_le_threads := hThreads }

/- An average that was computed is the last one. -/
theorem lastAverage_of_result_average
    {value : α}
    (hOk : (average .null .null c).1.result = .ok value) :
    (average .null .null c).2.estimator.lastAverage =
      some value := by
  change (plainAverage c).1.result = _ at hOk
  change (plainAverage c).2.estimator.lastAverage = _
  rw [plainAverage_eq] at hOk ⊢
  rcases hRun : c.estimator.averaging with
    ⟨notes, e | ⟨computation, found⟩⟩
  · rw [hRun] at hOk
    cases hOk
  · rw [hRun] at hOk
    cases hOk
    rfl

/- So is the mean of local values that were computed. -/
omit [Literal α] in
theorem lastAverage_of_result_locals
    {values : List α}
    (hOk : (locals c).1.result = .ok values) :
    (locals c).2.estimator.lastAverage =
      some (Scalar.mean values) := by
  rw [locals_eq] at hOk ⊢
  rcases hRun : c.estimator.localising with
    ⟨notes, e | ⟨computation, found⟩⟩
  · rw [hRun] at hOk
    cases hOk
  · rw [hRun] at hOk
    cases hOk
    rfl

/-
  The mean of the local values is the average, in exact
  arithmetic and with any numbers of threads, one for each.
  Both can be computed or none.  There is one local value for
  each observation, at the place of the observation and from
  its counts.  Either way the same average is kept as the last
  one.
-/
theorem mean_locals_eq_average
    [Scalar.ExactArithmetic α]
    (hCounting : c.estimator.IsCounting algorithm k data)
    {t₁ t₂ : ThreadCount}
    (hFirst : 1 ≤ t₁.toNat)
    (hSecond : 1 ≤ t₂.toNat) :
    let byLocals := locals (c.withThreads t₁)
    let byAverage := average .null .null (c.withThreads t₂)
    ((∃ values, byLocals.1.result = .ok values) ↔
      ∃ value, byAverage.1.result = .ok value) ∧
    ∀ values, byLocals.1.result = .ok values →
      values.length = data.size ∧
      (∀ i < data.size,
        ∃ counts,
          data.countsAt algorithm c.estimator.settings.search
              i = .ok counts ∧
            values[i]? =
              some
                (counts.localValue algorithm
                  (Scalar.ofNat k))) ∧
      byAverage.1.result = .ok (Scalar.mean values) ∧
      byLocals.2.estimator.lastAverage =
        some (Scalar.mean values) ∧
      byAverage.2.estimator.lastAverage =
        some (Scalar.mean values) ∧
      byLocals.2.estimator.isComputed = true ∧
      byAverage.2.estimator.isComputed = true := by
  intro byLocals byAverage
  let settings := c.estimator.settings
  let counts :=
    data.pointCounts algorithm settings.norm settings.window k
  have hResult :
      byLocals.1.result =
        unlessRefused
          (Window.firstRefusal? settings.window k data.size)
          ((List.range data.size).map fun i =>
            (counts i).localValue algorithm
              (Scalar.ofNat k)) :=
    (isCounting_withThreads hCounting hFirst).result_locals
  have hMean :
      byAverage.1.result =
        unlessRefused
          (Window.firstRefusal? settings.window k data.size)
          (Scalar.mean
            ((List.range data.size).map fun i =>
              (counts i).localValue algorithm
                (Scalar.ofNat k))) := by
    rcases
        (isCounting_withThreads hCounting
          hSecond).exists_result_average with
      ⟨means, hAverage, hMeans⟩
    have hSome : (List.range data.size).map counts ≠ [] := by
      have hSize := hCounting.one_le_size
      rw [ne_eq, List.map_eq_nil_iff, List.range_eq_nil]
      omega
    have hFormula :=
      Sums.average_ofCounts algorithm
        (Scalar.ofNat k : α) hSome
    rw [List.length_map, List.length_range,
      List.map_map] at hFormula
    apply hAverage.trans
    rw [hMeans inferInstance]
    exact congrArg _ hFormula
  constructor
  · rw [hResult, hMean, exists_unlessRefused_eq_ok_iff,
      exists_unlessRefused_eq_ok_iff]
  · intro values hValues
    have hNone :
        Window.firstRefusal? (α := α) settings.window k
          data.size = none := by
      rw [← exists_unlessRefused_eq_ok_iff]
      exact ⟨values, hResult.symm.trans hValues⟩
    rw [hNone, unlessRefused_none] at hResult hMean
    have hAll := hValues.symm.trans hResult
    cases hAll
    have hLast := lastAverage_of_result_locals hResult
    have hLast' := lastAverage_of_result_average hMean
    refine
      ⟨by simp, ?_, hMean, hLast, hLast', ?_, ?_⟩
    · intro i hPoint
      refine ⟨counts i, ?_, by simp [hPoint]⟩
      have hRefusal :
          Window.refusal? (α := α) settings.window k data.size
              i = none :=
        List.findSome?_eq_none_iff.mp hNone i
          (List.mem_range.mpr hPoint)
      rw [Settings.search_of_whole hCounting.neighbours,
        Observations.countsAt_eq_unlessRefused
          hCounting.isAligned hPoint
          hCounting.one_le_neighbours,
        hRefusal]
      rfl
    · rw [Estimator.isComputed, hLast]
      rfl
    · rw [Estimator.isComputed, hLast']
      rfl

/- Five points, by two threads and by three. -/
theorem mean_locals_eq_average_rationals :
    let data : Observations ℚ :=
      ⟨⟨1, [[0], [1], [3], [4], [7]]⟩,
        ⟨1, [[0], [2], [1], [5], [2]]⟩,
        ⟨1, [[0], [0], [1], [1], [3]]⟩⟩
    let e : Estimator ℚ :=
      { Estimator.create (some (.counting .second))
          (.initial (.whole 2) (.count 1)) with
        observations := some data }
    let c (threads : Nat) : Context ℚ :=
      withThreads (.count threads) ⟨e, .initial none default⟩
    e.IsCounting .second 2 data ∧
      ∃ values,
        (locals (c 2)).1.result = .ok values ∧
          values.length = 5 ∧
          (average .null .null (c 3)).1.result =
            .ok (Scalar.mean values) := by
  intro data e c
  have hCounting : e.IsCounting .second 2 data :=
    { method := rfl
      observations := rfl
      isAligned := ⟨by decide, by decide⟩
      one_le_size := by decide
      size_lt := by decide
      neighbours := rfl
      one_le_neighbours := by decide
      one_le_threads := by decide }
  have hTwo : (c 2).estimator.IsCounting .second 2 data :=
    isCounting_withThreads hCounting (by decide)
  rcases hTwo.exists_locals_iff.mpr (by decide) with
    ⟨values, hValues⟩
  have hFirst : 1 ≤ (ThreadCount.count 2).toNat := by decide
  have hSecond : 1 ≤ (ThreadCount.count 3).toNat := by decide
  rcases
      mean_locals_eq_average (c := ⟨e, .initial none default⟩)
        hCounting hFirst hSecond with
    ⟨-, hMean⟩
  rcases hMean values hValues with
    ⟨hLength, -, hAverage, -⟩
  exact ⟨hCounting, values, hValues, hLength, hAverage⟩

end Context

end NeighbourInfo
