import Mathlib
import NeighbourInfo.Proofs.Reading
import NeighbourInfo.Proofs.Session.Agreement
import NeighbourInfo.Proofs.Session.Observing
import NeighbourInfo.Proofs.Units

/-
  Estimators that are given their data in other units.

  Where observations are standardised their units do not
  matter: the one estimator takes what the other takes, and
  then all distances are the same, and all that is computed.

  This is proven by:
    * `NeighbourInfo.Context.reorder_mapRows`
    * `NeighbourInfo.Context.agreesReordered_mapRows`
    * `NeighbourInfo.Observations.prepared_rescaled`
    * `NeighbourInfo.Context.results_rescaled`
-/

------------------------------------------------------------
-- Rows That Keep Their Distances
------------------------------------------------------------

namespace NeighbourInfo

namespace Context

variable {α : Type} [Scalar α] [Literal α]

/- Rows may be put in a new order before or afterwards. -/
theorem reorder_mapRows
    {f : List α → List α}
    (hNil : f [] = [])
    (t : Table α)
    (ordering : Value α) :
    reorder (t.mapRows f) ordering =
      (reorder t ordering).map (Table.mapRows f) := by
  have hRow :
      ∀ index, (t.mapRows f).row index = f (t.row index) := by
    intro index
    rw [Table.row, Table.size_mapRows]
    exact t.getD_rows_mapRows hNil _
  have hGather :
      ∀ indices,
        (t.mapRows f).gather indices =
          (t.gather indices).map (Table.mapRows f) := by
    intro indices
    rw [Table.gather_eq_unlessRefused,
      Table.gather_eq_unlessRefused, map_unlessRefused,
      Table.size_mapRows, funext hRow, ← Function.comp_def,
      ← List.map_map]
    rfl
  unfold reorder
  rw [Table.size_mapRows]
  cases readOrdering t.size ordering with
  | error e => rfl
  | ok indices => exact hGather indices

variable {algorithm : Algorithm} {k : Nat}
variable {data : Observations α} {c c' : Context α}
variable {f : Variable → List α → List α}
variable {g : List α → List α}

/- Observations agree with those at the same distances. -/
theorem agreesReordered_mapRows
    (hF : ∀ v, Norm.IsIsometry (f v))
    (hG : Norm.IsIsometry g)
    (hCounting : c.estimator.IsCounting algorithm k data)
    (hCounting' :
      c'.estimator.IsCounting algorithm k (data.mapRows f g))
    (hSettings : c'.estimator.settings = c.estimator.settings) :
    AgreesReordered algorithm k data (data.mapRows f g) c c'
      fun v => Table.mapRows (f v) where
  counting := hCounting
  counting' := hCounting'
  size := data.size_mapRows
  window := congrArg Settings.window hSettings
  table v := data.table_mapRows v
  rows v t := t.size_mapRows (f v)
  reorder v t ordering :=
    reorder_mapRows (hF v).map_nil t ordering
  counts := by
    intro v t _ _ i _
    rw [hSettings, Observations.withTable_mapRows]
    exact
      Observations.pointCounts_mapRows hF hG _ algorithm _ _ k i

end Context

end NeighbourInfo

------------------------------------------------------------
-- Observations In Other Units
------------------------------------------------------------

namespace NeighbourInfo

namespace Observations

/- Tables whose rows correspond are read as one does. -/
theorem ofValues_mapRows
    {α : Type} [Scalar α] [Literal α]
    {dimensions : Dimensions}
    {x y z x' y' z' : Value α}
    {f : Variable → List α → List α}
    {g : List α → List α}
    (hX :
      Table.ofValue dimensions.x x' =
        (Table.ofValue dimensions.x x).map
          (Table.mapRows (f .x)))
    (hY :
      Table.ofValue dimensions.y y' =
        (Table.ofValue dimensions.y y).map
          (Table.mapRows (f .y)))
    (hZ :
      Table.ofValue dimensions.z z' =
        (Table.ofValue dimensions.z z).map (Table.mapRows g)) :
    ofValues dimensions x' y' z' =
      (ofValues dimensions x y z).map (mapRows f g) := by
  unfold ofValues
  rw [hX, hY, hZ]
  cases Table.ofValue dimensions.x x with
  | error e => rfl
  | ok x =>
      cases Table.ofValue dimensions.y y with
      | error e => rfl
      | ok y =>
          cases Table.ofValue dimensions.z z with
          | error e => rfl
          | ok z =>
              change
                (if _ then _ else _) =
                  Except.map _ (if _ then _ else _)
              simp only [Table.size_mapRows]
              split
              · rfl
              · rfl

/- Rescaled rows are read where the former ones are. -/
theorem ofValue_rescaled
    (u : Units)
    {dim : Nat}
    {rows : List (List ℝ)}
    (hSome : rows ≠ [])
    (hEach : ∀ row ∈ rows, row.length = dim) :
    Table.ofValue dim
        (Value.ofRows (rows.map u.rescaleRow)) =
      (Table.ofValue dim (Value.ofRows rows)).map
        (Table.mapRows u.rescaleRow) := by
  have hRescaled :
      ∀ row ∈ rows.map u.rescaleRow, row.length = dim := by
    refine List.forall_mem_map.mpr ?_
    intro row hRow
    rw [Units.rescaleRow, List.length_mapIdx, hEach row hRow]
  rw [Table.ofValue_ofRows hSome hEach,
    Table.ofValue_ofRows (by simpa using hSome) hRescaled]
  rfl

/- Prepared observations have columns turned around at most. -/
theorem prepared_rescaled
    {dimensions : Dimensions}
    {chunk : Observations ℝ}
    (hFits : chunk.Fits dimensions)
    (u : Variable → Units)
    (w : Units) :
    prepared true
        [chunk.mapRows (fun v => (u v).rescaleRow)
          w.rescaleRow] =
      (prepared true [chunk]).mapRows (fun v => (u v).turnRow)
        w.turnRow := by
  simp only [prepared, if_true, concat_singleton]
  simp only [standardise, mapRows,
    (u .x).standardise_rescaled hFits.x.isRectangular,
    (u .y).standardise_rescaled hFits.y.isRectangular,
    w.standardise_rescaled hFits.z.isRectangular]

end Observations

end NeighbourInfo

------------------------------------------------------------
-- Results
------------------------------------------------------------

namespace NeighbourInfo

namespace Context

variable {algorithm : Algorithm} {k : Nat} {c : Context ℝ}
variable {x y z x' y' z' : Value ℝ}
variable {u : Variable → Units} {w : Units}

/-
  Units do not matter where observations are standardised.
  Every column of each variable may be multiplied by a number
  that is not zero, and shifted; constant columns are no
  exception.  The observations are taken just if they were
  before.  Then all distances are the same in every norm, and
  so are the local values and the averages, also with a
  variable in a new order; what fails fails for the same
  reason.
-/
theorem results_rescaled
    (hMethod : c.estimator.method = some (.counting algorithm))
    (hNeighbours : c.estimator.settings.k = .whole k)
    (hPos : 1 ≤ k)
    (hThreads : 1 ≤ c.estimator.settings.threads.toNat)
    (hNoise : c.estimator.settings.noise = none)
    (hNormalise : c.estimator.settings.normalise = true)
    (hX :
      Table.ofValue c.estimator.dimensions.x x' =
        (Table.ofValue c.estimator.dimensions.x x).map
          (Table.mapRows (u .x).rescaleRow))
    (hY :
      Table.ofValue c.estimator.dimensions.y y' =
        (Table.ofValue c.estimator.dimensions.y y).map
          (Table.mapRows (u .y).rescaleRow))
    (hZ :
      Table.ofValue c.estimator.dimensions.z z' =
        (Table.ofValue c.estimator.dimensions.z z).map
          (Table.mapRows w.rescaleRow)) :
    let one := setObservations x y z c
    let other := setObservations x' y' z' c
    other.1.result = one.1.result ∧
    (one.1.result = .ok () →
      one.2.estimator.size < 2 ^ 63 →
        (∃ data data',
          one.2.estimator.observations = some data ∧
            other.2.estimator.observations = some data' ∧
            data'.size = data.size ∧
            ∀ (norm : Norm) (i j : Nat),
              data'.separation norm i j =
                data.separation norm i j) ∧
        (locals other.2).1.result = (locals one.2).1.result ∧
        ∀ chosen ordering : Value ℝ,
          (average chosen ordering other.2).1.result =
            (average chosen ordering one.2).1.result) := by
  intro one other
  have hRead :=
    Observations.ofValues_mapRows
      (f := fun v => (u v).rescaleRow) hX hY hZ
  constructor
  · have hOne := result_setObservations x y z hNoise
    have hOther := result_setObservations x' y' z' hNoise
    apply hOther.trans
    apply Eq.trans _ hOne.symm
    rw [hRead]
    cases Observations.ofValues c.estimator.dimensions x y z with
    | error e => rfl
    | ok chunk =>
        change
          (if _ then
              if (chunk.mapRows _ _).size = 0 then _ else _
            else _) =
            _
        rw [Observations.size_mapRows]
        rfl
  · intro hOk hSize
    rcases exists_chunk_of_setObservations hNoise hOk with
      ⟨hReady, chunk, hChunk, hRows⟩
    let chunk' :=
      chunk.mapRows (fun v => (u v).rescaleRow) w.rescaleRow
    have hChunk' :
        Observations.ofValues c.estimator.dimensions x' y' z' =
          .ok chunk' := by
      rw [hRead, hChunk]
      rfl
    have hFew : chunk.size < 2 ^ 63 := by
      change (setObservations x y z c).2.estimator.size < _
        at hSize
      rw [(setObservations_of_rows hReady hNoise hChunk
        hRows).2] at hSize
      change (Observations.prepared _ [chunk]).size < _ at hSize
      rwa [Observations.size_prepared,
        Observations.concat_singleton] at hSize
    have hSame : chunk'.size = chunk.size := chunk.size_mapRows
    have hCounting : one.2.estimator.IsCounting algorithm k _ :=
      isCounting_setObservations hMethod hNeighbours hPos
        hThreads hNoise hReady hChunk hRows hFew
    have hCounting' :
        other.2.estimator.IsCounting algorithm k _ :=
      isCounting_setObservations hMethod hNeighbours hPos
        hThreads hNoise hReady hChunk' (hSame ▸ hRows)
        (hSame ▸ hFew)
    rw [hNormalise] at hCounting hCounting'
    rw [Observations.prepared_rescaled
      (Observations.fits_ofValues hChunk)] at hCounting'
    have hTurned :
        ∀ v, Norm.IsIsometry (u v).turnRow :=
      fun v => (u v).isIsometry_turnRow
    have hSettings :
        other.2.estimator.settings =
          one.2.estimator.settings := by
      change
        (setObservations x' y' z' c).2.estimator.settings =
          (setObservations x y z c).2.estimator.settings
      rw [(setObservations_of_rows hReady hNoise hChunk
          hRows).2,
        (setObservations_of_rows hReady hNoise hChunk'
          (hSame ▸ hRows)).2]
      rfl
    have hAgrees :=
      agreesReordered_mapRows hTurned w.isIsometry_turnRow
        hCounting hCounting' hSettings
    refine ⟨?_, hAgrees.result_locals, hAgrees.result_average⟩
    exact
      ⟨_, _, hCounting.observations, hCounting'.observations,
        Observations.size_mapRows _,
        Observations.separation_mapRows hTurned
          w.isIsometry_turnRow _⟩

/- Temperatures and a column that is constant. -/
theorem results_rescaled_reals :
    let xs : List (List ℝ) := [[0, 1], [10, 3], [20, 3], [40, 8]]
    let ys : List (List ℝ) := [[3], [1], [4], [1]]
    let zs : List (List ℝ) := [[7], [7], [7], [7]]
    let fahrenheit : Units :=
      ⟨fun _ => 9 / 5, fun _ => 32, fun _ => by norm_num⟩
    let downwards : Units :=
      ⟨fun _ => -2, fun j => j, fun _ => by norm_num⟩
    let e : Estimator ℝ :=
      { Estimator.create (some (.counting .second))
          (.initial (.whole 1) (.count 2)) with
        dimensions := ⟨2, 1, 1⟩
        isInitialised := true }
    let c : Context ℝ := ⟨e, .initial none default⟩
    let one :=
      setObservations (.ofRows xs) (.ofRows ys) (.ofRows zs) c
    let other :=
      setObservations
        (.ofRows (xs.map fahrenheit.rescaleRow))
        (.ofRows (ys.map downwards.rescaleRow))
        (.ofRows (zs.map downwards.rescaleRow)) c
    one.1.result = .ok () ∧ other.1.result = .ok () ∧
      ∃ value,
        (average .null .null one.2).1.result = .ok value ∧
          (average .null .null other.2).1.result =
            .ok value := by
  intro xs ys zs fahrenheit downwards e c one other
  let chunk : Observations ℝ := ⟨⟨2, xs⟩, ⟨1, ys⟩, ⟨1, zs⟩⟩
  have hX : ∀ row ∈ xs, row.length = 2 := by simp [xs]
  have hY : ∀ row ∈ ys, row.length = 1 := by simp [ys]
  have hZ : ∀ row ∈ zs, row.length = 1 := by simp [zs]
  have hSome : xs ≠ [] ∧ ys ≠ [] ∧ zs ≠ [] := by
    simp [xs, ys, zs]
  have hChunk :
      Observations.ofValues c.estimator.dimensions
          (.ofRows xs) (.ofRows ys) (.ofRows zs) =
        .ok chunk := by
    rfl
  have hMethod :
      c.estimator.method = some (.counting .second) := rfl
  have hNeighbours :
      c.estimator.settings.k = .whole (1 : Nat) := rfl
  have hThreads : 1 ≤ c.estimator.settings.threads.toNat := by
    decide
  have hRows : chunk.size ≠ 0 := by decide
  have hCounting :
      one.2.estimator.IsCounting .second 1
        (Observations.prepared true [chunk]) :=
    isCounting_setObservations hMethod hNeighbours
      (Nat.le_refl 1) hThreads rfl rfl hChunk hRows (by decide)
  have hLoaded : one.1.result = .ok () :=
    (setObservations_of_rows (c := c) rfl rfl hChunk hRows).1
  have hSize : one.2.estimator.size < 2 ^ 63 := by
    rw [Estimator.size, hCounting.observations]
    exact hCounting.size_lt
  let u := Units.ofBoth fahrenheit downwards
  have hReadX :
      Table.ofValue c.estimator.dimensions.x
          (.ofRows (xs.map fahrenheit.rescaleRow)) =
        (Table.ofValue c.estimator.dimensions.x
          (.ofRows xs)).map (Table.mapRows (u .x).rescaleRow) :=
    Observations.ofValue_rescaled fahrenheit hSome.1 hX
  have hReadY :
      Table.ofValue c.estimator.dimensions.y
          (.ofRows (ys.map downwards.rescaleRow)) =
        (Table.ofValue c.estimator.dimensions.y
          (.ofRows ys)).map (Table.mapRows (u .y).rescaleRow) :=
    Observations.ofValue_rescaled downwards hSome.2.1 hY
  have hReadZ :
      Table.ofValue c.estimator.dimensions.z
          (.ofRows (zs.map downwards.rescaleRow)) =
        (Table.ofValue c.estimator.dimensions.z
          (.ofRows zs)).map (Table.mapRows downwards.rescaleRow) :=
    Observations.ofValue_rescaled downwards hSome.2.2 hZ
  have hEnough :
      ∃ value,
        (average .null .null one.2).1.result = .ok value := by
    apply hCounting.exists_average_iff.mpr
    rw [Observations.size_prepared]
    decide
  rcases hEnough with ⟨value, hValue⟩
  rcases
      results_rescaled (c := c) (u := u) hMethod hNeighbours
        (Nat.le_refl 1) hThreads rfl rfl hReadX hReadY hReadZ
    with
    ⟨hSame, hResults⟩
  rcases hResults hLoaded hSize with ⟨-, -, hAverage⟩
  have hEqual := hAverage .null .null
  refine ⟨hLoaded, hSame.trans hLoaded, value, hValue, ?_⟩
  rw [hEqual, hValue]

end Context

end NeighbourInfo
