import NeighbourInfo.Proofs.Session.Symmetry

/-
  Estimators that take their observations at once.

  Whether the observations are taken depends on whether they
  can be read and whether there are any; without noise, what
  is then held are their rows as they were prepared.

  This is proven by:
    * `NeighbourInfo.Context.result_finalise`
    * `NeighbourInfo.Context.result_setObservations`
    * `NeighbourInfo.Context.setObservations_of_rows`
    * `NeighbourInfo.Context.exists_chunk_of_setObservations`
    * `NeighbourInfo.Context.isCounting_setObservations`
-/

------------------------------------------------------------
-- Chunks
------------------------------------------------------------

namespace NeighbourInfo

/- A chunk alone is what its rows come to. -/
@[simp]
theorem Observations.concat_singleton
    {α : Type}
    (chunk : Observations α) :
    concat [chunk] = chunk := by
  simp [concat, Table.concat]

namespace Estimator

variable {α : Type} [Scalar α] [Literal α]

/- A chunk is open as soon as it has been read. -/
theorem startWith_eq
    (x : Value α)
    (y : Value α)
    (z : Value α)
    (e : Estimator α) :
    e.startWith x y z =
      if e.isInitialised then
        (Observations.ofValues e.dimensions x y z).map
          fun chunk => { e with pending := some [chunk] }
      else .error .notInitialised := by
  unfold startWith start
  by_cases hReady : e.isInitialised = true
  · rw [if_pos hReady, if_pos hReady]
    cases hChunk :
        Observations.ofValues e.dimensions x y z with
    | error refusal =>
        change add x y z .null { e with pending := some [] } = _
        unfold add
        simp only [openChunks, hChunk]
        rfl
    | ok chunk =>
        change add x y z .null { e with pending := some [] } = _
        unfold add
        simp only [openChunks, hChunk]
        rfl
  · rw [if_neg hReady, if_neg hReady]
    rfl

end Estimator

end NeighbourInfo

------------------------------------------------------------
-- Outcomes
------------------------------------------------------------

namespace NeighbourInfo

namespace Context

variable {α : Type} [Scalar α]

/- Without rows the open chunks are closed, and no more. -/
theorem finalise_of_empty
    {c : Context α}
    {chunks : List (Observations α)}
    (hPending : c.estimator.pending = some chunks)
    (hNone : (Observations.concat chunks).size = 0) :
    finalise c =
      (⟨[], .error .noObservations⟩,
        { c with
          estimator := { c.estimator with pending := none } }) := by
  have hClose :
      c.estimator.close =
        .ok (chunks, { c.estimator with pending := none }) := by
    unfold Estimator.close Estimator.openChunks
    rw [hPending]
    rfl
  rw [finalise_eq, hClose]
  dsimp only
  rw [Estimator.install_eq, if_pos hNone]

/- Only rows are needed to complete what is open. -/
theorem result_finalise
    {c : Context α}
    {chunks : List (Observations α)}
    (hPending : c.estimator.pending = some chunks)
    (hNoise : c.estimator.settings.noise = none) :
    (finalise c).1.result =
      if (Observations.concat chunks).size = 0 then
        .error .noObservations
      else .ok () := by
  by_cases hNone : (Observations.concat chunks).size = 0
  · rw [if_pos hNone, finalise_of_empty hPending hNone]
  · rw [if_neg hNone, (finalise_of_rows hPending hNone).1,
      Observations.completed, hNoise]

/- What is completed are the rows of all open chunks. -/
theorem estimator_finalise
    {c : Context α}
    {chunks : List (Observations α)}
    (hPending : c.estimator.pending = some chunks)
    (hNoise : c.estimator.settings.noise = none)
    (hRows : (Observations.concat chunks).size ≠ 0) :
    (finalise c).2.estimator =
      c.estimator.holding
        (Observations.prepared c.estimator.settings.normalise
          chunks) := by
  rw [(finalise_of_rows hPending hRows).2,
    Observations.completed, hNoise]

variable [Literal α]
variable {c : Context α} {x y z : Value α}
variable {chunk : Observations α}

/- Observations are taken if they can be read and are some. -/
theorem result_setObservations
    (x : Value α)
    (y : Value α)
    (z : Value α)
    (hNoise : c.estimator.settings.noise = none) :
    (setObservations x y z c).1.result =
      if c.estimator.isInitialised then
        (Observations.ofValues c.estimator.dimensions x y
            z).bind
          fun chunk =>
            if chunk.size = 0 then .error .noObservations
            else .ok ()
      else .error .notInitialised := by
  have hStart := c.estimator.startWith_eq x y z
  by_cases hReady : c.estimator.isInitialised = true
  · rw [if_pos hReady] at hStart ⊢
    cases hChunk :
        Observations.ofValues c.estimator.dimensions x y z with
    | error refusal =>
        rw [hChunk] at hStart
        exact (setObservations_of_error hStart).1
    | ok chunk =>
        rw [hChunk] at hStart
        let added : Context α :=
          { c with
            estimator :=
              { c.estimator with pending := some [chunk] } }
        have hPending :
            added.estimator.pending = some [chunk] := rfl
        have hDone := result_finalise hPending hNoise
        rw [Observations.concat_singleton] at hDone
        rw [setObservations_of_ok hStart]
        exact hDone
  · rw [if_neg hReady] at hStart ⊢
    exact (setObservations_of_error hStart).1

/- Rows that can be read are held as they were prepared. -/
theorem setObservations_of_rows
    (hReady : c.estimator.isInitialised = true)
    (hNoise : c.estimator.settings.noise = none)
    (hChunk :
      Observations.ofValues c.estimator.dimensions x y z =
        .ok chunk)
    (hRows : chunk.size ≠ 0) :
    (setObservations x y z c).1.result = .ok () ∧
      (setObservations x y z c).2.estimator =
        c.estimator.holding
          (Observations.prepared
            c.estimator.settings.normalise [chunk]) := by
  constructor
  · rw [result_setObservations x y z hNoise, if_pos hReady,
      hChunk]
    exact if_neg hRows
  · have hStart := c.estimator.startWith_eq x y z
    rw [if_pos hReady, hChunk] at hStart
    rw [← Observations.concat_singleton chunk] at hRows
    rw [setObservations_of_ok hStart]
    exact estimator_finalise rfl hNoise hRows

/- Observations that were taken had been read and are some. -/
theorem exists_chunk_of_setObservations
    (hNoise : c.estimator.settings.noise = none)
    (hOk : (setObservations x y z c).1.result = .ok ()) :
    c.estimator.isInitialised = true ∧
      ∃ chunk,
        Observations.ofValues c.estimator.dimensions x y z =
            .ok chunk ∧
          chunk.size ≠ 0 := by
  rw [result_setObservations x y z hNoise] at hOk
  by_cases hReady : c.estimator.isInitialised = true
  · rw [if_pos hReady] at hOk
    rcases exists_of_bind_eq_ok hOk with
      ⟨chunk, hChunk, hChecked⟩
    refine ⟨hReady, chunk, hChunk, ?_⟩
    intro hNone
    rw [if_pos hNone] at hChecked
    cases hChecked
  · rw [if_neg hReady] at hOk
    cases hOk

/- An estimator counts among the rows that it has taken. -/
theorem isCounting_setObservations
    {algorithm : Algorithm}
    {k : Nat}
    (hMethod : c.estimator.method = some (.counting algorithm))
    (hNeighbours : c.estimator.settings.k = .whole k)
    (hPos : 1 ≤ k)
    (hThreads : 1 ≤ c.estimator.settings.threads.toNat)
    (hNoise : c.estimator.settings.noise = none)
    (hReady : c.estimator.isInitialised = true)
    (hChunk :
      Observations.ofValues c.estimator.dimensions x y z =
        .ok chunk)
    (hRows : chunk.size ≠ 0)
    (hSize : chunk.size < 2 ^ 63) :
    (setObservations x y z c).2.estimator.IsCounting algorithm
      k
      (Observations.prepared c.estimator.settings.normalise
        [chunk]) := by
  have hHeld :
      (Observations.prepared c.estimator.settings.normalise
        [chunk]).size = chunk.size := by
    rw [Observations.size_prepared,
      Observations.concat_singleton]
  have hFits := Observations.fits_ofValues hChunk
  rw [← Observations.concat_singleton chunk] at hFits
  rw [(setObservations_of_rows hReady hNoise hChunk hRows).2]
  apply
    Estimator.isCounting_holding hMethod hNeighbours hPos
      hThreads (hFits.prepared _).isAligned
  · rwa [hHeld]
  · rwa [hHeld]

end Context

end NeighbourInfo
