import NeighbourInfo.Proofs.Fitting
import NeighbourInfo.Proofs.Symmetry
import NeighbourInfo.Proofs.Scalar.Rational
import NeighbourInfo.Proofs.Session.Completing
import NeighbourInfo.Proofs.Session.Counting

/-
  Two estimators, the one with the x of the other as its y.

  Key definitions include:
    * `NeighbourInfo.Variable.swap`
    * `NeighbourInfo.Dimensions.swap`
    * `NeighbourInfo.Context.load`
    * `NeighbourInfo.Context.IsMirrored`

  What the one estimator takes the other takes too, and then
  their observations are exchanged.  Exchanged they stay when
  a variable gets a new order, the first of the one estimator
  and the second of the other.  From exchanged observations
  the same is computed.

  This is proven by:
    * `NeighbourInfo.Observations.ofValues_swap`
    * `NeighbourInfo.Context.load_of_rows`
    * `NeighbourInfo.Context.isMirrored_compute`
    * `NeighbourInfo.Context.isMirrored_average`
    * `NeighbourInfo.Context.outcomes_load_swap`
-/

------------------------------------------------------------
-- Exchanged Observations
------------------------------------------------------------

namespace NeighbourInfo

variable {α : Type}

/- The other one of the two variables. -/
def Variable.swap :
    Variable → Variable
  | .x => .y
  | .y => .x

namespace Observations

theorem table_swap
    (data : Observations α)
    (v : Variable) :
    data.swap.table v.swap = data.table v := by
  cases v with
  | x => rfl
  | y => rfl

theorem withTable_swap
    (data : Observations α)
    (t : Table α)
    (v : Variable) :
    data.swap.withTable t v.swap =
      (data.withTable t v).swap := by
  cases v with
  | x => rfl
  | y => rfl

end Observations

namespace Dimensions

/- The dimensions of x and y exchanged. -/
def swap
    (d : Dimensions) :
    Dimensions :=
  ⟨d.y, d.x, d.z⟩

variable [Scalar α] [Literal α]

private theorem ofItems_three
    (dx : Value α)
    (dy : Value α)
    (dz : Value α) :
    ofItems (.list [dx, dy, dz]) = do
      let x ← readOne dx
      let y ← readOne dy
      let z ← readOne dz
      return ⟨x, y, z⟩ := rfl

theorem ofItems_swap
    {dx dy dz : Value α}
    {d : Dimensions}
    (hOk : ofItems (.list [dx, dy, dz]) = .ok d) :
    ofItems (.list [dy, dx, dz]) = .ok d.swap := by
  rw [ofItems_three] at hOk ⊢
  rcases exists_of_bind_eq_ok hOk with ⟨x, hX, hOk⟩
  rcases exists_of_bind_eq_ok hOk with ⟨y, hY, hOk⟩
  rcases exists_of_bind_eq_ok hOk with ⟨z, hZ, hOk⟩
  cases hOk
  rw [hX, hY, hZ]
  rfl

end Dimensions

namespace Observations

variable [Scalar α]

omit [Scalar α] in
theorem concat_swap
    (chunk : Observations α) :
    concat [chunk.swap] = (concat [chunk]).swap := rfl

theorem prepared_swap
    (normalise : Bool)
    (chunk : Observations α) :
    prepared normalise [chunk.swap] =
      (prepared normalise [chunk]).swap := by
  cases normalise with
  | false => rfl
  | true => rfl

variable [Literal α]

/- A chunk that was read fits when it stands alone. -/
theorem fits_concat_of_ofValues
    {dimensions : Dimensions}
    {x y z : Value α}
    {chunk : Observations α}
    (hOk : ofValues dimensions x y z = .ok chunk)
    (hRows : (concat [chunk]).size ≠ 0) :
    (concat [chunk]).Fits dimensions := by
  apply fits_concat _ hRows
  intro part hPart
  rw [List.mem_singleton.mp hPart]
  exact fits_ofValues hOk

theorem ofValues_swap
    {dimensions : Dimensions}
    {x y z : Value α}
    {chunk : Observations α}
    (hOk : ofValues dimensions x y z = .ok chunk) :
    ofValues dimensions.swap y x z = .ok chunk.swap := by
  unfold ofValues at hOk ⊢
  rcases exists_of_bind_eq_ok hOk with ⟨x, hX, hOk⟩
  rcases exists_of_bind_eq_ok hOk with ⟨y, hY, hOk⟩
  rcases exists_of_bind_eq_ok hOk with ⟨z, hZ, hOk⟩
  split at hOk
  · next hSizes =>
      cases hOk
      have hSwapped : y.size = x.size ∧ x.size = z.size :=
        ⟨hSizes.1.symm, hSizes.1.trans hSizes.2⟩
      simp only [Dimensions.swap, hX, hY, hZ]
      exact if_pos hSwapped
  · cases hOk

end Observations

end NeighbourInfo

------------------------------------------------------------
-- Loading
------------------------------------------------------------

namespace NeighbourInfo

/- The estimator with a chunk of new dimensions added to it. -/
def Estimator.adding
    {α : Type}
    (dimensions : Dimensions)
    (chunk : Observations α)
    (e : Estimator α) :
    Estimator α :=
  { e with
    dimensions := dimensions
    isInitialised := true
    pending := some [chunk]
    observations := none
    lastAverage := none }

namespace Context

variable {α : Type} [Scalar α] [Literal α]

/- Take observations of new dimensions. -/
def load
    (dims : Value α)
    (x : Value α)
    (y : Value α)
    (z : Value α) :
    Transition (Context α) α Unit := do
  updateEstimator (Estimator.initialise dims)
  setObservations x y z

variable {c : Context α} {dims x y z : Value α}
variable {dimensions : Dimensions} {chunk : Observations α}

/- A chunk that can be read is completed. -/
theorem load_eq
    (hDims : Dimensions.ofItems dims = .ok dimensions)
    (hChunk :
      Observations.ofValues dimensions x y z = .ok chunk) :
    load dims x y z c =
      finalise
        ⟨c.estimator.adding dimensions chunk, c.shared⟩ := by
  let ready : Estimator α :=
    { c.estimator with
      dimensions := dimensions
      isInitialised := true
      pending := none
      observations := none
      lastAverage := none }
  have hInitialise :
      c.estimator.initialise dims = .ok ready := by
    unfold Estimator.initialise
    rw [hDims]
    rfl
  have hStart :
      ready.startWith x y z =
        .ok (c.estimator.adding dimensions chunk) := by
    change
      Estimator.add x y z .null
          { ready with pending := some [] } =
        .ok (c.estimator.adding dimensions chunk)
    unfold Estimator.add
    simp only [Estimator.openChunks, ready, hChunk]
    rfl
  unfold load
  rw [Transition.bind_ok (updateEstimator_of_ok hInitialise),
    setObservations_of_ok (c := ⟨ready, c.shared⟩) hStart]
  rfl

/- What was taken are rows of the given dimensions. -/
theorem exists_chunk_of_load
    (hOk : (load dims x y z c).1.result = .ok ()) :
    ∃ dimensions chunk,
      Dimensions.ofItems dims = .ok dimensions ∧
      Observations.ofValues dimensions x y z = .ok chunk ∧
      (Observations.concat [chunk]).size ≠ 0 := by
  unfold load at hOk
  cases hInitialise : c.estimator.initialise dims with
  | error e =>
      rw [Transition.bind_error
        (updateEstimator_of_error hInitialise)] at hOk
      cases hOk
  | ok e =>
      rw [Transition.bind_ok
        (updateEstimator_of_ok hInitialise)] at hOk
      have hSet :
          (setObservations x y z
              { c with estimator := e }).1.result = .ok () :=
        hOk
      rcases exists_of_bind_eq_ok hInitialise with
        ⟨dimensions, hDims, hReady⟩
      cases hReady
      cases hStart : Estimator.startWith x y z _ with
      | error refusal =>
          rw [(setObservations_of_error hStart).1] at hSet
          cases hSet
      | ok added =>
          rcases Estimator.eq_of_startWith hStart with
            ⟨-, chunk, hChunk, rfl⟩
          refine ⟨dimensions, chunk, hDims, hChunk, ?_⟩
          intro hNone
          rw [setObservations_of_ok hStart] at hSet
          let added : Context α :=
            ⟨c.estimator.adding dimensions chunk, c.shared⟩
          have hRefused :
              ∃ refusal,
                (finalise added).1.result = .error refusal := by
            apply (finalise_of_none (c := added) _).1
            intro chunks hPending
            cases hPending
            exact hNone
          rcases hRefused with ⟨refusal, hRefused⟩
          exact absurd (hSet.symm.trans hRefused) (by simp)

/- Rows are held as soon as they have been prepared. -/
theorem load_of_rows
    (hDims : Dimensions.ofItems dims = .ok dimensions)
    (hChunk :
      Observations.ofValues dimensions x y z = .ok chunk)
    (hRows : (Observations.concat [chunk]).size ≠ 0)
    (hNoise : c.estimator.settings.noise = none) :
    (load dims x y z c).1.result = .ok () ∧
      (load dims x y z c).2.estimator =
        (c.estimator.adding dimensions chunk).holding
          (Observations.prepared
            c.estimator.settings.normalise [chunk]) := by
  have hCompleted :
      Observations.completed c.estimator.settings
          c.shared.chance [chunk] =
        (.ok (),
          Observations.prepared
            c.estimator.settings.normalise [chunk]) := by
    rw [Observations.completed, hNoise]
  let added : Context α :=
    ⟨c.estimator.adding dimensions chunk, c.shared⟩
  have hPending : added.estimator.pending = some [chunk] := rfl
  have hFinalised := finalise_of_rows hPending hRows
  rw [load_eq hDims hChunk]
  change
    Observations.completed added.estimator.settings
      added.shared.chance [chunk] = _ at hCompleted
  rw [hCompleted] at hFinalised
  exact hFinalised

end Context

end NeighbourInfo

------------------------------------------------------------
-- Computing
------------------------------------------------------------

namespace NeighbourInfo

namespace Context

variable {α : Type} [Scalar α]

/-
  Two outcomes agree, but for the means that were recorded of
  (x, z) and (y, z), which are exchanged.
-/
structure IsMirrored
    (one : Report α α × Context α)
    (other : Report α α × Context α) :
    Prop where
  result : other.1.result = one.1.result
  means :
    ∀ value, one.1.result = .ok value →
      let means := one.2.shared.summary
      let means' := other.2.shared.summary
      means'.meanXZ = means.meanYZ ∧
        means'.meanYZ = means.meanXZ ∧
        means'.meanZ = means.meanZ

variable [Scalar.LawfulOrder α] [Scalar.ExactArithmetic α]
variable {algorithm : Algorithm} {k : Nat}
variable {data : Observations α} {c c' : Context α}

section Mirrored

variable
  (hCounting : c.estimator.IsCounting algorithm k data)
  (hCounting' : c'.estimator.IsCounting algorithm k data.swap)
  (hSettings : c'.estimator.settings = c.estimator.settings)
include hCounting hCounting' hSettings

/- All that is computed with the average is mirrored. -/
theorem exists_averaging_swap :
    ∃ (r : Option (Error α)) (points : Nat)
      (threads : ThreadCount) (blocks blocks' : List Block)
      (means : Sums α),
      let value := means.average algorithm (Scalar.ofNat k)
      c.estimator.averaging.result =
          unlessRefused r
            (⟨points, threads, blocks, some means⟩, value) ∧
        c'.estimator.averaging.result =
          unlessRefused r
            (⟨points, threads, blocks', some means.swap⟩,
              value) := by
  rcases hCounting.exists_averaging with
    ⟨blocks, means, hResult, hMeans⟩
  rcases hCounting'.exists_averaging with
    ⟨blocks', means', hResult', hMeans'⟩
  have hSwap : means' = means.swap := by
    rw [hMeans inferInstance, hMeans' inferInstance, hSettings,
      Observations.size_swap hCounting.isAligned,
      Observations.map_pointCounts_swap hCounting.isAligned,
      Sums.ofCounts_map_swap]
    rfl
  rw [hSwap, Sums.average_swap, hSettings,
    Observations.size_swap hCounting.isAligned] at hResult'
  exact ⟨_, _, _, blocks, blocks', means, hResult, hResult'⟩

theorem isMirrored_compute :
    IsMirrored (compute .notImplemented Method.average c)
      (compute .notImplemented Method.average c') := by
  rcases
      exists_averaging_swap hCounting hCounting' hSettings with
    ⟨refusal, points, threads, blocks, blocks', means, hOne,
      hOther⟩
  constructor
  · rw [result_compute, result_compute]
    change
      c'.estimator.averaging.result.map _ =
        c.estimator.averaging.result.map _
    rw [hOne, hOther, map_unlessRefused, map_unlessRefused]
  · intro value hValue
    rw [result_compute] at hValue
    change c.estimator.averaging.result.map _ = _ at hValue
    cases refusal with
    | some e =>
        rw [hOne] at hValue
        cases hValue
    | none =>
        rw [context_compute_of_ok hOne,
          context_compute_of_ok hOther]
        exact ⟨rfl, rfl, rfl⟩

theorem isMirrored_plainAverage :
    IsMirrored (plainAverage c) (plainAverage c') := by
  rcases isMirrored_compute hCounting hCounting' hSettings with
    ⟨hResult, hMeans⟩
  constructor
  · rw [result_plainAverage, result_plainAverage, hResult]
  · intro value hValue
    rw [result_plainAverage] at hValue
    rw [shared_plainAverage, shared_plainAverage]
    exact hMeans value hValue

/- Local values do not change when x and y are exchanged. -/
theorem result_locals_swap :
    (locals c').1.result = (locals c).1.result := by
  rw [hCounting.result_locals, hCounting'.result_locals,
    hSettings, Observations.size_swap hCounting.isAligned]
  congr 1
  apply List.map_congr_left
  intro i _
  rw [Observations.pointCounts_swap hCounting.isAligned,
    Counts.localValue_swap]

end Mirrored

end Context

end NeighbourInfo

------------------------------------------------------------
-- Averages
------------------------------------------------------------

namespace NeighbourInfo

namespace Context

variable {α : Type} [Scalar α] [Literal α]

/- A new order has as many rows as there were. -/
theorem size_of_reorder
    {former t : Table α}
    {ordering : Value α}
    (hOk : reorder former ordering = .ok t) :
    t.size = former.size := by
  rcases exists_of_bind_eq_ok hOk with
    ⟨indices, hRead, hGather⟩
  rcases exists_of_bind_eq_ok hGather with
    ⟨rows, hRows, hTable⟩
  cases hTable
  unfold readOrdering at hRead
  split at hRead
  · next items hItems =>
      split at hRead
      · next hLength =>
          rw [← hLength,
            ← Tensor.length_of_indices hItems hRead]
          exact length_of_mapM_eq_ok hRows
      · cases hRead
  · cases hRead

variable [Scalar.LawfulOrder α] [Scalar.ExactArithmetic α]
variable {algorithm : Algorithm} {k : Nat}
variable {data : Observations α} {c c' : Context α}

/- So are averages with either variable in a new order. -/
theorem isMirrored_average
    (hCounting : c.estimator.IsCounting algorithm k data)
    (hCounting' :
      c'.estimator.IsCounting algorithm k data.swap)
    (hSettings : c'.estimator.settings = c.estimator.settings)
    {chosen chosen' : Value α}
    {v : Variable}
    (hChosen : Variable.ofValue chosen = .ok v)
    (hChosen' : Variable.ofValue chosen' = .ok v.swap)
    (ordering : Value α) :
    IsMirrored (average chosen ordering c)
      (average chosen' ordering c') := by
  by_cases hNull : ordering = .null
  · rw [hNull]
    exact
      isMirrored_plainAverage hCounting hCounting' hSettings
  rw [average_of_ne chosen hNull, average_of_ne chosen' hNull,
    reorderedAverage_eq hCounting.method
      hCounting.observations,
    reorderedAverage_eq hCounting'.method
      hCounting'.observations,
    hChosen, hChosen']
  dsimp only
  rw [Observations.table_swap]
  cases hReorder : reorder (data.table v) ordering with
  | error e =>
      refine ⟨rfl, ?_⟩
      intro value hValue
      cases hValue
  | ok t =>
      have hRows : t.size = data.size :=
        (size_of_reorder hReorder).trans
          (Observations.size_table hCounting.isAligned v)
      have hRows' : t.size = data.swap.size :=
        hRows.trans
          (Observations.size_swap hCounting.isAligned).symm
      have hExchanged := (hCounting.withTable hRows v).1
      have hExchanged' :=
        (hCounting'.withTable hRows' v.swap).1
      rw [Observations.withTable_swap] at hExchanged'
      dsimp only
      rw [← Observations.table_swap data v,
        exchanging_eq hCounting'.observations
          (leaves_compute _ _),
        Observations.table_swap,
        exchanging_eq hCounting.observations
          (leaves_compute _ _)]
      rcases
          isMirrored_compute hExchanged hExchanged'
            hSettings with
        ⟨hResult, hMeans⟩
      exact ⟨hResult, hMeans⟩

end Context

end NeighbourInfo

------------------------------------------------------------
-- Exchanged Variables
------------------------------------------------------------

namespace NeighbourInfo

/- An estimator counts among the rows that it is given. -/
theorem Estimator.isCounting_holding
    {α : Type} [Scalar α]
    {algorithm : Algorithm}
    {k : Nat}
    {e : Estimator α}
    (hMethod : e.method = some (.counting algorithm))
    (hNeighbours : e.settings.k = .whole k)
    (hPos : 1 ≤ k)
    (hThreads : 1 ≤ e.settings.threads.toNat)
    {data : Observations α}
    (hAligned : data.IsAligned)
    (hRows : data.size ≠ 0)
    (hSize : data.size < 2 ^ 63) :
    (e.holding data).IsCounting algorithm k data where
  method := hMethod
  observations := rfl
  isAligned := hAligned
  one_le_size := Nat.one_le_iff_ne_zero.mpr hRows
  size_lt := hSize
  neighbours := hNeighbours
  one_le_neighbours := hPos
  one_le_threads := hThreads

namespace Context

variable {α : Type} [Scalar α] [Literal α]

/- An estimator counts among the rows that it has taken. -/
theorem isCounting_load
    {algorithm : Algorithm}
    {k : Nat}
    {c : Context α}
    (hMethod : c.estimator.method = some (.counting algorithm))
    (hNeighbours : c.estimator.settings.k = .whole k)
    (hPos : 1 ≤ k)
    (hThreads : 1 ≤ c.estimator.settings.threads.toNat)
    (hNoise : c.estimator.settings.noise = none)
    {dims x y z : Value α}
    {dimensions : Dimensions}
    {chunk : Observations α}
    (hDims : Dimensions.ofItems dims = .ok dimensions)
    (hChunk :
      Observations.ofValues dimensions x y z = .ok chunk)
    (hRows : (Observations.concat [chunk]).size ≠ 0)
    (hSize : (Observations.concat [chunk]).size < 2 ^ 63) :
    (load dims x y z c).2.estimator.IsCounting algorithm k
      (Observations.prepared c.estimator.settings.normalise
        [chunk]) := by
  have hFits :=
    Observations.fits_concat_of_ofValues hChunk hRows
  rw [(load_of_rows hDims hChunk hRows hNoise).2]
  apply Estimator.isCounting_holding
  · exact hMethod
  · exact hNeighbours
  · exact hPos
  · exact hThreads
  · exact (hFits.prepared _).isAligned
  · rwa [Observations.size_prepared]
  · rwa [Observations.size_prepared]

/- The second estimator takes what the first one takes. -/
theorem exists_isCounting_load_swap
    {algorithm : Algorithm}
    {k : Nat}
    {c c' : Context α}
    {dx dy dz x y z : Value α}
    (hMethod : c.estimator.method = some (.counting algorithm))
    (hMethod' :
      c'.estimator.method = some (.counting algorithm))
    (hSettings : c'.estimator.settings = c.estimator.settings)
    (hNeighbours : c.estimator.settings.k = .whole k)
    (hPos : 1 ≤ k)
    (hThreads : 1 ≤ c.estimator.settings.threads.toNat)
    (hNoise : c.estimator.settings.noise = none)
    (hLoaded :
      (load (.list [dx, dy, dz]) x y z c).1.result = .ok ())
    (hSize :
      (load (.list [dx, dy, dz]) x y z c).2.estimator.size <
        2 ^ 63) :
    let one := load (.list [dx, dy, dz]) x y z c
    let other := load (.list [dy, dx, dz]) y x z c'
    other.1.result = .ok () ∧
      other.2.estimator.settings = one.2.estimator.settings ∧
      ∃ data,
        one.2.estimator.IsCounting algorithm k data ∧
          other.2.estimator.IsCounting algorithm k
            data.swap := by
  intro one other
  rcases exists_chunk_of_load hLoaded with
    ⟨dimensions, chunk, hDims, hChunk, hRows⟩
  have hTaken := load_of_rows hDims hChunk hRows hNoise
  let data :=
    Observations.prepared c.estimator.settings.normalise
      [chunk]
  have hHeld : (Observations.concat [chunk]).size < 2 ^ 63 := by
    rw [hTaken.2] at hSize
    change data.size < 2 ^ 63 at hSize
    rw [Observations.size_prepared] at hSize
    exact hSize
  have hDims' := Dimensions.ofItems_swap hDims
  have hChunk' := Observations.ofValues_swap hChunk
  have hSizes :
      (Observations.concat [chunk.swap]).size =
        (Observations.concat [chunk]).size := by
    have hFits :=
      Observations.fits_concat_of_ofValues hChunk hRows
    rw [Observations.concat_swap]
    exact Observations.size_swap hFits.isAligned
  rw [← hSizes] at hRows hHeld
  rw [← hSettings] at hNeighbours hThreads hNoise
  have hTaken' := load_of_rows hDims' hChunk' hRows hNoise
  have hCounting' :=
    isCounting_load hMethod' hNeighbours hPos hThreads hNoise
      hDims' hChunk' hRows hHeld
  rw [hSizes] at hRows hHeld
  rw [hSettings] at hNeighbours hThreads hNoise
  rw [hSettings, Observations.prepared_swap] at hCounting'
  refine ⟨hTaken'.1, ?_, data, ?_, hCounting'⟩
  · rw [hTaken.2, hTaken'.2]
    exact hSettings
  · exact
      isCounting_load hMethod hNeighbours hPos hThreads hNoise
        hDims hChunk hRows hHeld

/-
  The information that x and y share given z is the same as
  that of y and x, in exact arithmetic.  Where the one
  estimator accepts its observations the other does, and then
  each computes what the other does or fails as it does.  So
  it is with either variable in a new order.  Of the recorded
  means those of (x, z) and (y, z) are exchanged.

  Neighbours are chosen by their joint distances alone, which
  settles what is chosen among equal ones.  But whichever
  points were chosen, within them would be counted the same.
-/
theorem outcomes_load_swap
    [Scalar.LawfulOrder α]
    [Scalar.ExactArithmetic α]
    {algorithm : Algorithm}
    {k : Nat}
    {c c' : Context α}
    {dx dy dz x y z : Value α}
    (hMethod : c.estimator.method = some (.counting algorithm))
    (hMethod' :
      c'.estimator.method = some (.counting algorithm))
    (hSettings : c'.estimator.settings = c.estimator.settings)
    (hNeighbours : c.estimator.settings.k = .whole k)
    (hPos : 1 ≤ k)
    (hThreads : 1 ≤ c.estimator.settings.threads.toNat)
    (hNoise : c.estimator.settings.noise = none)
    (hLoaded :
      (load (.list [dx, dy, dz]) x y z c).1.result = .ok ())
    (hSize :
      (load (.list [dx, dy, dz]) x y z c).2.estimator.size <
        2 ^ 63) :
    let one := (load (.list [dx, dy, dz]) x y z c).2
    let loading := load (.list [dy, dx, dz]) y x z c'
    let other := loading.2
    loading.1.result = .ok () ∧
    IsMirrored (average .null .null one)
      (average .null .null other) ∧
    (locals other).1.result = (locals one).1.result ∧
    (∀ ordering : Value α,
      IsMirrored (average (.whole 1) ordering one)
          (average (.whole 2) ordering other) ∧
        IsMirrored (average (.whole 2) ordering one)
          (average (.whole 1) ordering other)) ∧
    ∃ data,
      one.estimator.observations = some data ∧
      other.estimator.observations = some data.swap ∧
      ∀ (norm : Norm) (window i : Nat),
        let others := data.others norm window i
        let others' := data.swap.others norm window i
        (∀ f : Separation α → Separation α,
          (∀ s ∈ others, Scalar.Alike (f s).joint s.joint) →
            Separation.nearest k (others.map f) =
              (Separation.nearest k others).map f) ∧
        Separation.nearest k others' =
          (Separation.nearest k others).map Separation.swap ∧
        ∀ chosen : List (Separation α),
          Counts.within (chosen.map Separation.swap) others' =
            (Counts.within chosen others).swap := by
  intro one loading other
  rcases
      exists_isCounting_load_swap hMethod hMethod' hSettings
        hNeighbours hPos hThreads hNoise hLoaded hSize with
    ⟨hTaken, hSame, data, hCounting, hCounting'⟩
  refine
    ⟨hTaken,
      isMirrored_plainAverage hCounting hCounting' hSame,
      result_locals_swap hCounting hCounting' hSame, ?_, data,
      hCounting.observations, hCounting'.observations, ?_⟩
  · intro ordering
    constructor
    · apply
        isMirrored_average (v := .x) hCounting hCounting' hSame
      · rfl
      · rfl
    · apply
        isMirrored_average (v := .y) hCounting hCounting' hSame
      · rfl
      · rfl
  · intro norm window i others others'
    have hOthers : others' = others.map Separation.swap :=
      Observations.others_swap hCounting.isAligned norm window i
    rw [hOthers]
    refine ⟨?_, ?_, ?_⟩
    · intro f hJoint
      exact Separation.nearest_map hJoint k
    · apply Separation.nearest_map
      intro s _
      exact s.joint_swap
    · intro chosen
      exact Counts.within_map_swap chosen others

/- Five points, some of which are equally far from others. -/
theorem outcomes_load_swap_rationals :
    let row (as : List ℚ) : Value ℚ := .list (as.map .real)
    let x : Value ℚ :=
      .list ([[0, 0], [1, 0], [3, 1], [4, 1], [7, 2]].map row)
    let y : Value ℚ := row [0, 1, 1, 5, 2]
    let z : Value ℚ := row [0, 0, 1, 1, 2]
    let e : Estimator ℚ :=
      .create (some (.counting .second))
        (.initial (.whole 1) (.count 2))
    let c : Context ℚ := ⟨e, .initial none default⟩
    let dims : Value ℚ := .list [.whole 2, .whole 1, .whole 1]
    let dims' : Value ℚ := .list [.whole 1, .whole 2, .whole 1]
    let one := load dims x y z c
    let other := load dims' y x z c
    one.1.result = .ok () ∧ other.1.result = .ok () ∧
      (∃ value,
        (average .null .null one.2).1.result = .ok value) ∧
      IsMirrored (average .null .null one.2)
        (average .null .null other.2) := by
  intro row x y z e c dims dims' one other
  let chunk : Observations ℚ :=
    ⟨⟨2, [[0, 0], [1, 0], [3, 1], [4, 1], [7, 2]]⟩,
      ⟨1, [[0], [1], [1], [5], [2]]⟩,
      ⟨1, [[0], [0], [1], [1], [2]]⟩⟩
  have hMethod :
      c.estimator.method = some (.counting .second) := rfl
  have hNeighbours :
      c.estimator.settings.k = .whole (1 : Nat) := rfl
  have hThreads : 1 ≤ c.estimator.settings.threads.toNat := by
    decide
  have hDims : Dimensions.ofItems dims = .ok ⟨2, 1, 1⟩ := by rfl
  have hChunk :
      Observations.ofValues ⟨2, 1, 1⟩ x y z = .ok chunk := by
    rfl
  have hCounting :
      one.2.estimator.IsCounting .second 1
        (Observations.prepared true [chunk]) :=
    isCounting_load hMethod hNeighbours (Nat.le_refl 1)
      hThreads rfl hDims hChunk (by decide) (by decide)
  have hLoaded : one.1.result = .ok () := by rfl
  have hSize : one.2.estimator.size < 2 ^ 63 := by
    rw [Estimator.size, hCounting.observations]
    exact hCounting.size_lt
  rcases
      outcomes_load_swap hMethod hMethod rfl hNeighbours
        (Nat.le_refl 1) hThreads rfl hLoaded hSize with
    ⟨hLoaded', hAverage, -⟩
  refine ⟨hLoaded, hLoaded', ?_, hAverage⟩
  apply hCounting.exists_average_iff.mpr
  rw [Observations.size_prepared]
  decide

end Context

end NeighbourInfo
