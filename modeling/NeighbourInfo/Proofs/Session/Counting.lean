import NeighbourInfo.Scalar.Double
import NeighbourInfo.Proofs.Evaluation
import NeighbourInfo.Proofs.Window
import NeighbourInfo.Proofs.Session.Operations

/-
  Estimators that count neighbours.

  Key definitions include:
    * `NeighbourInfo.Estimator.IsCounting`

  Whether something is computed depends on the number of
  points, the number of neighbours and the window, and on
  nothing else: not on what was observed, the norm, the
  algorithm, the threads, nor on the order of a variable.

  This is proven by:
    * `NeighbourInfo.Estimator.IsCounting.result_locals`
    * `NeighbourInfo.Estimator.IsCounting.exists_result_average`
    * `NeighbourInfo.Context.exists_ok_iff_le_size`
-/

------------------------------------------------------------
-- Estimators
------------------------------------------------------------

namespace NeighbourInfo

namespace Estimator

variable {α : Type} [Scalar α]

/-
  The estimator counts neighbours by one of the algorithms and
  holds observations, as many as an array can have.  The `k`
  and the number of threads are at least one.
-/
structure IsCounting
    (algorithm : Algorithm)
    (k : Nat)
    (data : Observations α)
    (e : Estimator α) :
    Prop where
  method : e.method = some (.counting algorithm)
  observations : e.observations = some data
  isAligned : data.IsAligned
  one_le_size : 1 ≤ data.size
  size_lt : data.size < 2 ^ 63
  neighbours : e.settings.k = .whole k
  one_le_neighbours : 1 ≤ k
  one_le_threads : 1 ≤ e.settings.threads.toNat

namespace IsCounting

variable {algorithm : Algorithm} {k : Nat}
variable {data : Observations α} {c : Context α}

theorem averaging_eq
    {e : Estimator α}
    (hCounting : e.IsCounting algorithm k data) :
    e.averaging =
      (Method.counting algorithm).average e.settings data :=
  averaging_of_some hCounting.method hCounting.observations

theorem localising_eq
    {e : Estimator α}
    (hCounting : e.IsCounting algorithm k data) :
    e.localising =
      (Method.counting algorithm).locals e.settings data := by
  simp only [localising, evaluation, hCounting.method,
    hCounting.observations]

/- The local values, unless some point is refused. -/
theorem result_locals
    (hCounting : c.estimator.IsCounting algorithm k data) :
    (Context.locals c).1.result =
      unlessRefused
        (Window.firstRefusal? c.estimator.settings.window k
          data.size)
        ((List.range data.size).map fun i =>
          Counts.localValue algorithm (Scalar.ofNat k)
            (data.pointCounts algorithm
              c.estimator.settings.norm
              c.estimator.settings.window k i)) := by
  rw [Context.result_locals_eq, hCounting.localising_eq]
  exact
    Method.result_locals_counting algorithm
      hCounting.neighbours hCounting.one_le_threads
      hCounting.one_le_neighbours hCounting.isAligned
      hCounting.one_le_size hCounting.size_lt

/- What is computed with the average of all points. -/
theorem exists_averaging
    {e : Estimator α}
    (hCounting : e.IsCounting algorithm k data) :
    ∃ (blocks : List Block) (means : Sums α),
      e.averaging.result =
        unlessRefused
          (Window.firstRefusal? e.settings.window k data.size)
          (⟨data.size, e.settings.threads, blocks, some means⟩,
            means.average algorithm (Scalar.ofNat k)) ∧
      (Scalar.ExactSums α →
        means =
          (Sums.ofCounts algorithm
              ((List.range data.size).map
                (data.pointCounts algorithm e.settings.norm
                  e.settings.window k))).dividedBy
            (Scalar.ofNat data.size)) := by
  rw [hCounting.averaging_eq]
  exact
    Method.exists_average_counting algorithm
      hCounting.neighbours hCounting.one_le_threads
      hCounting.one_le_neighbours hCounting.isAligned
      hCounting.one_le_size hCounting.size_lt

/- The average, unless some point is refused. -/
theorem exists_result_average
    [Literal α]
    (hCounting : c.estimator.IsCounting algorithm k data) :
    ∃ means : Sums α,
      (Context.average .null .null c).1.result =
        unlessRefused
          (Window.firstRefusal? c.estimator.settings.window k
            data.size)
          (means.average algorithm (Scalar.ofNat k)) ∧
      (Scalar.ExactSums α →
        means =
          (Sums.ofCounts algorithm
              ((List.range data.size).map
                (data.pointCounts algorithm
                  c.estimator.settings.norm
                  c.estimator.settings.window k))).dividedBy
            (Scalar.ofNat data.size)) := by
  rcases hCounting.exists_averaging with
    ⟨blocks, means, hResult, hMeans⟩
  refine ⟨means, ?_, hMeans⟩
  change (Context.plainAverage c).1.result = _
  rw [Context.result_plainAverage_eq, hResult,
    map_unlessRefused]

/- It counts among exchanged tables as well. -/
theorem withTable
    (hCounting : c.estimator.IsCounting algorithm k data)
    {t : Table α}
    (hRows : t.size = data.size)
    (v : Variable) :
    (c.withTable t v).estimator.IsCounting algorithm k
        (data.withTable t v) ∧
      (data.withTable t v).size = data.size := by
  have hSize := Observations.size_withTable hRows v
  have hAligned :=
    Observations.isAligned_withTable hCounting.isAligned hRows v
  rw [Context.withTable_eq hCounting.observations]
  refine ⟨?_, hSize⟩
  exact
    { hCounting with
      observations := rfl
      isAligned := hAligned
      one_le_size := hSize ▸ hCounting.one_le_size
      size_lt := hSize ▸ hCounting.size_lt }

/- Rows in another order are refused where all rows are. -/
theorem exists_result_reordered
    [Literal α]
    (hCounting : c.estimator.IsCounting algorithm k data)
    {chosen : Value α}
    {v : Variable}
    (hChosen : Variable.ofValue chosen = .ok v)
    {indices : List Int}
    (hLength : indices.length = data.size)
    (hWithin :
      ∀ i ∈ indices, Table.IsWithin data.size i) :
    ∃ value,
      (Context.average chosen (.list (indices.map .whole))
          c).1.result =
        unlessRefused
          (Window.firstRefusal? c.estimator.settings.window k
            data.size)
          value := by
  have hTable : (data.table v).size = data.size :=
    Observations.size_table hCounting.isAligned v
  let t : Table α :=
    ⟨(data.table v).width, indices.map (data.table v).row⟩
  have hReorder :
      Context.reorder (data.table v)
          (.list (indices.map .whole)) =
        .ok t :=
    Context.reorder_of_within (hTable ▸ hCounting.size_lt)
      (hLength.trans hTable.symm) (hTable ▸ hWithin)
  have hRows : t.size = data.size := by
    rw [Table.size, List.length_map, hLength]
  rcases hCounting.withTable hRows v with
    ⟨hExchanged, hSize⟩
  rcases hExchanged.exists_result_average with
    ⟨means, hOutcome, -⟩
  rw [hSize] at hOutcome
  refine ⟨means.average algorithm (Scalar.ofNat k), ?_⟩
  rw [Context.average_of_ne chosen (by simp),
    Context.result_reorderedAverage hCounting.method
      hCounting.observations hChosen,
    hReorder]
  exact hOutcome

end IsCounting

end Estimator

end NeighbourInfo

------------------------------------------------------------
-- Enough Points
------------------------------------------------------------

namespace NeighbourInfo

namespace Window

variable {α : Type} {window k n : Nat}

/- No point is refused where there are enough of them. -/
theorem firstRefusal?_eq_none_iff
    (hPos : 1 ≤ k)
    (hSome : 1 ≤ n) :
    firstRefusal? (α := α) window k n = none ↔
      2 * window + 1 + k ≤ n := by
  constructor
  · intro hNone
    by_contra hFew
    rcases
        exists_first_length_admissible_lt hPos hSome
          (Nat.lt_of_not_le hFew) with
      ⟨i, hPoint, hRefused, hEnough⟩
    rw [firstRefusal?_eq_some hPoint hRefused hEnough] at hNone
    exact absurd hNone (by simp)
  · intro hFits
    apply firstRefusal?_eq_none
    exact (forall_le_length_admissible_iff hPos hSome).mpr hFits

end Window

namespace Estimator.IsCounting

variable {α : Type} [Scalar α]
variable {algorithm : Algorithm} {k : Nat}
variable {data : Observations α} {c : Context α}

/- Local values take enough points for any point. -/
theorem exists_locals_iff
    (hCounting : c.estimator.IsCounting algorithm k data) :
    (∃ values, (Context.locals c).1.result = .ok values) ↔
      2 * c.estimator.settings.window + 1 + k ≤ data.size := by
  rw [hCounting.result_locals, exists_unlessRefused_eq_ok_iff]
  exact
    Window.firstRefusal?_eq_none_iff
      hCounting.one_le_neighbours hCounting.one_le_size

/- So does the average. -/
theorem exists_average_iff
    [Literal α]
    (hCounting : c.estimator.IsCounting algorithm k data) :
    (∃ value,
      (Context.average .null .null c).1.result = .ok value) ↔
      2 * c.estimator.settings.window + 1 + k ≤ data.size := by
  rcases hCounting.exists_result_average with
    ⟨means, hAverage, -⟩
  rw [hAverage, exists_unlessRefused_eq_ok_iff]
  exact
    Window.firstRefusal?_eq_none_iff
      hCounting.one_le_neighbours hCounting.one_le_size

end Estimator.IsCounting

namespace Context

variable {α : Type} [Scalar α] [Literal α]
variable {algorithm : Algorithm} {k : Nat}
variable {data : Observations α} {c : Context α}

/-
  When something is computed.  There have to be `k` points
  more than a point and its window on both sides take up,
  whatever was observed.  Otherwise the first point with too
  few others is named, together with how many it has: all but
  itself and what of its window there is.  A new order of a
  variable makes no difference to that.
-/
theorem exists_ok_iff_le_size
    (hCounting : c.estimator.IsCounting algorithm k data) :
    let n := data.size
    let window := c.estimator.settings.window
    let found (i : Nat) : Nat :=
      n - 1 - min i window - min (n - 1 - i) window
    let locals := (locals c).1.result
    let average := (average .null .null c).1.result
    ((∃ values, locals = .ok values) ↔
      2 * window + 1 + k ≤ n) ∧
    ((∃ value, average = .ok value) ↔
      2 * window + 1 + k ≤ n) ∧
    (n < 2 * window + 1 + k →
      ∃ i < n,
        found i < k ∧ (∀ j < i, k ≤ found j) ∧
          let e := Error.tooFewNeighbours i (found i) (.whole k)
          locals = .error e ∧ average = .error e) ∧
    ∀ (chosen : Value α) (v : Variable) (indices : List Int),
      Variable.ofValue chosen = .ok v →
      indices.length = n →
      (∀ i ∈ indices, -(n : Int) ≤ i ∧ i < n) →
        let reordered :=
          (Context.average chosen
            (.list (indices.map .whole)) c).1.result
        ((∃ value, reordered = .ok value) ↔
          ∃ value, average = .ok value) ∧
        ∀ e, reordered = .error e ↔ average = .error e := by
  intro n window found locals average
  have hLocals := hCounting.result_locals
  rcases hCounting.exists_result_average with
    ⟨means, hAverage, -⟩
  refine
    ⟨hCounting.exists_locals_iff, hCounting.exists_average_iff,
      ?_, ?_⟩
  · intro hFew
    rcases
        Window.exists_first_length_admissible_lt
          hCounting.one_le_neighbours hCounting.one_le_size
          hFew with
      ⟨i, hPoint, hRefused, hEnough⟩
    have hFirst :=
      Window.firstRefusal?_eq_some (α := α) hPoint hRefused
        hEnough
    have hFound :
        ∀ j < n,
          (Window.admissible window j n).length = found j :=
      fun j hJ => Window.length_admissible hJ
    rw [hFound i hPoint] at hRefused hFirst
    refine ⟨i, hPoint, hRefused, ?_, ?_, ?_⟩
    · intro j hJ
      rw [← hFound j (hJ.trans hPoint)]
      exact hEnough j hJ
    · apply hLocals.trans
      rw [hFirst]
      rfl
    · apply hAverage.trans
      rw [hFirst]
      rfl
  · intro chosen v indices hChosen hLength hWithin reordered
    rcases
        hCounting.exists_result_reordered hChosen hLength
          hWithin with
      ⟨value, hReordered⟩
    constructor
    · change
        (∃ value, (Context.average _ _ c).1.result = _) ↔
          ∃ value, (Context.average _ _ c).1.result = _
      rw [hReordered, hAverage, exists_unlessRefused_eq_ok_iff,
        exists_unlessRefused_eq_ok_iff]
    · intro e
      change
        (Context.average _ _ c).1.result = _ ↔
          (Context.average _ _ c).1.result = _
      rw [hReordered, hAverage, unlessRefused_eq_error_iff,
        unlessRefused_eq_error_iff]

/- Four points are just enough for a window of one. -/
theorem exists_ok_iff_le_size_doubles :
    let data : Observations Float :=
      ⟨⟨1, [[0], [1], [3], [4]]⟩, ⟨1, [[0], [2], [1], [5]]⟩,
        ⟨1, [[0], [0], [1], [1]]⟩⟩
    let settings : Settings Float :=
      { Settings.initial (.whole 1) (.count 2) with window := 1 }
    let e : Estimator Float :=
      { Estimator.create (some (.counting .second)) settings
        with observations := some data }
    let c : Context Float := ⟨e, .initial none default⟩
    let ordering : Value Float :=
      .list (([3, -4, 0, 1] : List Int).map .whole)
    e.IsCounting .second 1 data ∧
      (∃ values, (locals c).1.result = .ok values) ∧
      (∃ value,
        (average .null .null c).1.result = .ok value) ∧
      ∃ value,
        (average (.whole 1) ordering c).1.result =
          .ok value := by
  intro data settings e c ordering
  have hCounting : e.IsCounting .second 1 data :=
    { method := rfl
      observations := rfl
      isAligned := ⟨by decide, by decide⟩
      one_le_size := by decide
      size_lt := by decide
      neighbours := rfl
      one_le_neighbours := Nat.le_refl 1
      one_le_threads := by decide }
  rcases exists_ok_iff_le_size (c := c) hCounting with
    ⟨hLocals, hAverage, -, hReordered⟩
  have hEnough : 2 * 1 + 1 + 1 ≤ data.size := by decide
  have hValue := hAverage.mpr hEnough
  rcases
      hReordered (.whole 1) .x [3, -4, 0, 1] rfl rfl
        (by decide) with
    ⟨hSame, -⟩
  exact
    ⟨hCounting, hLocals.mpr hEnough, hValue,
      hSame.mpr hValue⟩

end Context

end NeighbourInfo
