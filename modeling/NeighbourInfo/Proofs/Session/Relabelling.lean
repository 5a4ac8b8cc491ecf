import NeighbourInfo.Proofs.Relabelling
import NeighbourInfo.Proofs.Scalar.Rational
import NeighbourInfo.Proofs.Session.Agreement
import NeighbourInfo.Proofs.Session.Observing

/-
  Estimators that are given their data in another order.

  All three variables are put in one new order in which the
  same points are within the window of each other.  What can
  be computed does not change.  The local value of a point
  goes with it, and the average stays what it is, as long as
  sums are exact; the second algorithm needs that it is clear
  which neighbours are the nearest.

  This is proven by:
    * `NeighbourInfo.Observations.prepared_pick`
    * `NeighbourInfo.Context.result_locals_relabelled`
    * `NeighbourInfo.Context.result_average_relabelled`
    * `NeighbourInfo.Context.results_relabelled`
-/

------------------------------------------------------------
-- Counting In Another Order
------------------------------------------------------------

namespace NeighbourInfo

/- Rows can be prepared before they are reordered. -/
theorem Observations.prepared_pick
    {α : Type} [Scalar α] [Scalar.ExactSums α]
    {chunk : Observations α}
    (hAligned : chunk.IsAligned)
    {places : List Nat}
    (hPlaces : places.Perm (List.range chunk.size))
    (normalise : Bool) :
    prepared normalise [chunk.pick places] =
      (prepared normalise [chunk]).pick places := by
  cases normalise with
  | false => simp [prepared]
  | true =>
      simp [prepared, standardise_pick hAligned hPlaces]

namespace Context

variable {α : Type} [Scalar α] [Scalar.LawfulOrder α]
variable {algorithm : Algorithm} {k : Nat} {s : Nat → Nat}
variable {data : Observations α} {c c' : Context α}

variable
  (hSettings : c'.estimator.settings = c.estimator.settings)
  (hRelabelling :
    Window.IsRelabelling c.estimator.settings.window data.size
      s)
  (hGap :
    algorithm = .second →
      ∀ i < data.size,
        Separation.HasGap k
          (data.others c.estimator.settings.norm
            c.estimator.settings.window i))
include hSettings hRelabelling hGap

theorem pointCounts_relabelled
    (hPos : 1 ≤ k)
    {i : Nat}
    (hPoint : i < data.size) :
    c'.estimator.settings.pointCounts algorithm k
        (data.pick ((List.range data.size).map s)) i =
      c.estimator.settings.pointCounts algorithm k data
        (s i) := by
  rw [Settings.pointCounts, Settings.pointCounts, hSettings]
  apply
    Observations.pointCounts_pick hRelabelling algorithm hPos
      hPoint
  intro hSecond
  exact hGap hSecond (s i) (hRelabelling.lt hPoint)

variable
  (hCounting : c.estimator.IsCounting algorithm k data)
  (hCounting' :
    c'.estimator.IsCounting algorithm k
      (data.pick ((List.range data.size).map s)))
include hCounting hCounting'

/- The local values are in the new order as well. -/
theorem result_locals_relabelled :
    (locals c').1.result =
      (locals c).1.result.map fun values =>
        (List.range data.size).map fun i =>
          values.getD (s i) 0 := by
  rw [hCounting.result_locals, hCounting'.result_locals,
    map_unlessRefused, Observations.size_pick, List.length_map,
    List.length_range, hSettings]
  congr 1
  apply List.map_congr_left
  intro i hI
  have hPoint := List.mem_range.mp hI
  have hMoved := hRelabelling.lt hPoint
  have hCounts :=
    pointCounts_relabelled hSettings hRelabelling hGap
      hCounting.one_le_neighbours hPoint
  rw [Settings.pointCounts, Settings.pointCounts, hSettings]
    at hCounts
  rw [hCounts, List.getD_eq_getElem?_getD, List.getElem?_map,
    List.getElem?_range hMoved]
  rfl

/- Each value is that of the point that was moved there. -/
theorem exists_locals_relabelled
    {values : List α}
    (hValues : (locals c).1.result = .ok values) :
    values.length = data.size ∧
      ∃ moved,
        (locals c').1.result = .ok moved ∧
          moved.length = data.size ∧
          ∀ i < data.size, moved[i]? = values[s i]? := by
  have hLength : values.length = data.size := by
    have hResult := hCounting.result_locals
    rw [hValues] at hResult
    rw [← (unlessRefused_eq_ok_iff.mp hResult.symm).2,
      List.length_map, List.length_range]
  refine
    ⟨hLength,
      (List.range data.size).map fun i => values.getD (s i) 0,
      ?_, by simp, ?_⟩
  · rw [result_locals_relabelled hSettings hRelabelling hGap
      hCounting hCounting', hValues]
    rfl
  · intro i hPoint
    have hMoved : s i < values.length := by
      rw [hLength]
      exact hRelabelling.lt hPoint
    rw [List.getElem?_map, List.getElem?_range hPoint,
      List.getElem?_eq_getElem hMoved, Option.map_some,
      List.getD_eq_getElem _ _ hMoved]

/- The average is the same one. -/
theorem result_average_relabelled
    [Literal α] [Scalar.ExactSums α] :
    (average .null .null c').1.result =
      (average .null .null c).1.result := by
  have hSize :
      (data.pick ((List.range data.size).map s)).size =
        data.size := by
    simp
  have hWindow :
      c'.estimator.settings.window =
        c.estimator.settings.window :=
    congrArg Settings.window hSettings
  apply result_average_perm hCounting hCounting' hSize hWindow
  intro _
  -- The sums are over the same counts in another order.
  have hMoved :
      (List.range data.size).map
          (c'.estimator.settings.pointCounts algorithm k
            (data.pick ((List.range data.size).map s))) =
        ((List.range data.size).map s).map
          (c.estimator.settings.pointCounts algorithm k
            data) := by
    rw [List.map_map]
    apply List.map_congr_left
    intro i hI
    exact
      pointCounts_relabelled hSettings hRelabelling hGap
        hCounting.one_le_neighbours (List.mem_range.mp hI)
  rw [hMoved]
  exact hRelabelling.range_perm.map _

end Context

end NeighbourInfo

------------------------------------------------------------
-- Taking Rows In Another Order
------------------------------------------------------------

namespace NeighbourInfo

namespace Context

variable {α : Type} [Scalar α] [Literal α] [Scalar.ExactSums α]
variable {c : Context α} {x y z : Value α}
variable {chunk : Observations α}

/- What is held are the rows held before, reordered. -/
theorem setObservations_pick
    (hNoise : c.estimator.settings.noise = none)
    (hReady : c.estimator.isInitialised = true)
    (hChunk :
      Observations.ofValues c.estimator.dimensions x y z =
        .ok chunk)
    (hRows : chunk.size ≠ 0)
    {places : List Nat}
    (hPlaces : places.Perm (List.range chunk.size)) :
    let taken :=
      setObservations (x.pick places) (y.pick places)
        (z.pick places) c
    taken.1.result = .ok () ∧
      taken.2.estimator =
        c.estimator.holding
          ((Observations.prepared
            c.estimator.settings.normalise [chunk]).pick
              places) := by
  intro taken
  have hLength : (chunk.pick places).size = chunk.size := by
    rw [Observations.size_pick, hPlaces.length_eq,
      List.length_range]
  have hSome : places ≠ [] := by
    intro hNone
    rw [hNone, Observations.size_pick] at hLength
    exact hRows hLength.symm
  have hRows' : (chunk.pick places).size ≠ 0 := by
    rwa [hLength]
  have hChunk' :
      Observations.ofValues c.estimator.dimensions
          (x.pick places) (y.pick places) (z.pick places) =
        .ok (chunk.pick places) := by
    apply Observations.ofValues_pick hChunk hSome
    intro i hI
    exact List.mem_range.mp (hPlaces.mem_iff.mp hI)
  rw [← Observations.prepared_pick
    (Observations.fits_ofValues hChunk).isAligned hPlaces]
  exact setObservations_of_rows hReady hNoise hChunk' hRows'

end Context

end NeighbourInfo

------------------------------------------------------------
-- Results
------------------------------------------------------------

namespace NeighbourInfo

namespace Context

variable {α : Type} [Scalar α] [Literal α]
variable [Scalar.LawfulOrder α] [Scalar.ExactSums α]
variable {algorithm : Algorithm} {k : Nat} {c : Context α}
variable {x y z : Value α}

/-
  Points have no order but for the window.  Without a window
  the observations may come in any order, and in the opposite
  one with any window.  In a new order they are taken, and
  local values and the average are computed just if they were
  before.  Each local value is the one of the point that now
  stands in its place.  The average is the same.  For the
  second algorithm there has to be a gap behind the `k`
  nearest neighbours of each point; ties among them, and any
  ties for the first algorithm, do not matter.
-/
theorem results_relabelled
    (hMethod : c.estimator.method = some (.counting algorithm))
    (hNeighbours : c.estimator.settings.k = .whole k)
    (hPos : 1 ≤ k)
    (hThreads : 1 ≤ c.estimator.settings.threads.toNat)
    (hNoise : c.estimator.settings.noise = none)
    (hOk : (setObservations x y z c).1.result = .ok ())
    (hSize :
      (setObservations x y z c).2.estimator.size < 2 ^ 63) :
    let one := (setObservations x y z c).2
    let n := one.estimator.size
    let norm := c.estimator.settings.norm
    let window := c.estimator.settings.window
    (∀ s, Set.BijOn s (Set.Iio n) (Set.Iio n) →
      Window.IsRelabelling 0 n s) ∧
    Window.IsRelabelling window n (fun i => n - 1 - i) ∧
    ∃ data,
      one.estimator.observations = some data ∧
      ∀ s, Window.IsRelabelling window n s →
        let places := (List.range n).map s
        let taken :=
          setObservations (x.pick places) (y.pick places)
            (z.pick places) c
        let other := taken.2
        taken.1.result = .ok () ∧
        ((∃ values, (locals other).1.result = .ok values) ↔
          ∃ values, (locals one).1.result = .ok values) ∧
        ((∃ value,
            (average .null .null other).1.result = .ok value) ↔
          ∃ value,
            (average .null .null one).1.result = .ok value) ∧
        ((algorithm = .second →
            ∀ i < n,
              Separation.HasGap k (data.others norm window i)) →
          (∀ values,
            (locals one).1.result = .ok values →
              values.length = n ∧
              ∃ moved,
                (locals other).1.result = .ok moved ∧
                  moved.length = n ∧
                  ∀ i < n, moved[i]? = values[s i]?) ∧
          (average .null .null other).1.result =
            (average .null .null one).1.result) := by
  intro one n norm window
  rcases exists_chunk_of_setObservations hNoise hOk with
    ⟨hReady, chunk, hChunk, hRows⟩
  let data :=
    Observations.prepared c.estimator.settings.normalise [chunk]
  have hHolding : one.estimator = c.estimator.holding data :=
    (setObservations_of_rows hReady hNoise hChunk hRows).2
  have hData : data.size = chunk.size := by
    rw [Observations.size_prepared,
      Observations.concat_singleton]
  have hHeld : n = data.size := by
    change one.estimator.size = _
    rw [hHolding]
    rfl
  have hCounting : one.estimator.IsCounting algorithm k data := by
    apply
      isCounting_setObservations hMethod hNeighbours hPos
        hThreads hNoise hReady hChunk hRows
    rw [← hData, ← hHeld]
    exact hSize
  refine
    ⟨fun s hBij => Window.isRelabelling_zero hBij,
      Window.isRelabelling_reverse window n, data,
      hCounting.observations, ?_⟩
  rw [hHeld]
  intro s hRelabelling places taken other
  have hPlaces : places.Perm (List.range chunk.size) := by
    rw [← hData]
    exact hRelabelling.range_perm
  rcases
      setObservations_pick hNoise hReady hChunk hRows hPlaces
    with
    ⟨hTaken, hHolding'⟩
  change other.estimator = c.estimator.holding (data.pick places)
    at hHolding'
  have hSize' : (data.pick places).size = data.size := by
    simp [places]
  have hCounting' :
      other.estimator.IsCounting algorithm k
        (data.pick places) := by
    rw [hHolding']
    apply
      Estimator.isCounting_holding hMethod hNeighbours hPos
        hThreads
    · exact Observations.isAligned_pick places data
    · rw [hSize', hData]
      exact hRows
    · rw [hSize']
      exact hCounting.size_lt
  have hSettings :
      one.estimator.settings = c.estimator.settings := by
    rw [hHolding]
    rfl
  have hSettings' :
      other.estimator.settings = one.estimator.settings := by
    rw [hSettings, hHolding']
    rfl
  refine ⟨hTaken, ?_, ?_, ?_⟩
  · rw [hCounting.exists_locals_iff,
      hCounting'.exists_locals_iff, hSize', hSettings']
  · rw [hCounting.exists_average_iff,
      hCounting'.exists_average_iff, hSize', hSettings']
  · intro hGap
    change
      Window.IsRelabelling c.estimator.settings.window _ s
      at hRelabelling
    change _ → ∀ i < _, Separation.HasGap k
      (data.others c.estimator.settings.norm
        c.estimator.settings.window i) at hGap
    rw [← hSettings] at hGap hRelabelling
    exact
      ⟨fun values =>
          exists_locals_relabelled hSettings' hRelabelling hGap
            hCounting hCounting',
        result_average_relabelled hSettings' hRelabelling hGap
          hCounting hCounting'⟩

/- Four points with a gap behind each one's neighbour. -/
theorem results_relabelled_rationals :
    let chunk : Observations ℚ :=
      ⟨⟨1, [[0], [3], [4], [7]]⟩, ⟨1, [[5], [5], [5], [5]]⟩,
        ⟨1, [[0], [0], [2], [2]]⟩⟩
    let x : Value ℚ := .ofRows chunk.x.rows
    let y : Value ℚ := .ofRows chunk.y.rows
    let z : Value ℚ := .ofRows chunk.z.rows
    let e : Estimator ℚ :=
      { Estimator.create (some (.counting .second))
          (.initial (.whole 1) (.count 2)) with
        dimensions := ⟨1, 1, 1⟩
        isInitialised := true }
    let c : Context ℚ := ⟨e, .initial none default⟩
    let s (i : Nat) : Nat := (i + 1) % 4
    let places := (List.range 4).map s
    let one := setObservations x y z c
    let other :=
      setObservations (x.pick places) (y.pick places)
        (z.pick places) c
    one.1.result = .ok () ∧ other.1.result = .ok () ∧
      (∃ values moved,
        (locals one.2).1.result = .ok values ∧
          (locals other.2).1.result = .ok moved ∧
          ∀ i < 4, moved[i]? = values[s i]?) ∧
      ∃ value,
        (average .null .null one.2).1.result = .ok value ∧
          (average .null .null other.2).1.result =
            .ok value := by
  intro chunk x y z e c s places one other
  let data := Observations.prepared true [chunk]
  have hMethod :
      c.estimator.method = some (.counting .second) := rfl
  have hNeighbours :
      c.estimator.settings.k = .whole (1 : Nat) := rfl
  have hThreads : 1 ≤ c.estimator.settings.threads.toNat := by
    decide
  have hChunk :
      Observations.ofValues c.estimator.dimensions x y z =
        .ok chunk := by
    rfl
  have hRows : chunk.size ≠ 0 := by decide
  have hLoaded : one.1.result = .ok () :=
    (setObservations_of_rows (c := c) rfl rfl hChunk hRows).1
  have hCounting : one.2.estimator.IsCounting .second 1 data :=
    isCounting_setObservations hMethod hNeighbours
      (Nat.le_refl 1) hThreads rfl rfl hChunk hRows (by decide)
  have hSize : one.2.estimator.size = 4 := by
    rw [Estimator.size, hCounting.observations]
    rfl
  have hBij : Set.BijOn s (Set.Iio 4) (Set.Iio 4) := by
    refine ⟨?_, ?_, ?_⟩
    · intro i _
      exact Nat.mod_lt _ (by decide)
    · intro i hI j hJ hEq
      rw [Set.mem_Iio] at hI hJ
      change (i + 1) % 4 = (j + 1) % 4 at hEq
      omega
    · intro i hI
      rw [Set.mem_Iio] at hI
      refine ⟨(i + 3) % 4, Nat.mod_lt _ (by decide), ?_⟩
      change ((i + 3) % 4 + 1) % 4 = i
      omega
  have hGap :
      ∀ i < 4,
        Separation.HasGap 1 (data.others .maximum 0 i) := by
    intro i hPoint
    right
    interval_cases i
    · cbv
    · cbv
    · cbv
    · cbv
  rcases
      results_relabelled (c := c) hMethod hNeighbours
        (Nat.le_refl 1) hThreads rfl hLoaded
        (hSize ▸ by decide) with
    ⟨hAny, -, held, hHeld, hResults⟩
  cases Option.some.inj (hHeld.symm.trans hCounting.observations)
  change (setObservations x y z c).2.estimator.size = 4 at hSize
  rw [hSize] at hAny hResults
  rcases hResults s (hAny s hBij) with
    ⟨hTaken, -, -, hAgree⟩
  rcases hAgree fun _ => hGap with ⟨hLocals, hAverage⟩
  have hEnough : 2 * 0 + 1 + 1 ≤ data.size := by
    rw [Observations.size_prepared]
    decide
  rcases hCounting.exists_locals_iff.mpr hEnough with
    ⟨values, hValues⟩
  rcases hCounting.exists_average_iff.mpr hEnough with
    ⟨value, hValue⟩
  rcases hLocals values hValues with
    ⟨-, moved, hMoved, -, hEach⟩
  refine
    ⟨hLoaded, hTaken, ⟨values, moved, hValues, ?_, hEach⟩,
      value, hValue, ?_⟩
  · rw [hMoved]
  · rw [hAverage, hValue]

end Context

end NeighbourInfo
