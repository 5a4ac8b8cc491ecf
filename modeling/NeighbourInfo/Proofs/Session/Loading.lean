import NeighbourInfo.Proofs.Retaining
import NeighbourInfo.Proofs.Scalar.Rational
import NeighbourInfo.Proofs.Session.Observing

/-
  Observations that are loaded in chunks.

  Key definitions include:
    * `NeighbourInfo.Chunk`
    * `NeighbourInfo.Chunk.read`
    * `NeighbourInfo.Context.addAll`

  Every chunk that is added leaves the rows that its mask
  retains behind those of the chunks before it.  When the
  chunks are completed, nothing can be told of where they
  were cut: the estimator is the one that has taken all the
  retained rows at once.

  This is proven by:
    * `NeighbourInfo.Context.exists_batch_of_add`
    * `NeighbourInfo.Context.exists_batches_of_addEach`
    * `NeighbourInfo.Context.finalise_batches`
    * `NeighbourInfo.Context.finalise_addAll`
-/

------------------------------------------------------------
-- Chunks
------------------------------------------------------------

namespace NeighbourInfo

/-
  What is added to an estimator at a time: data of the three
  variables and a mask, whose numbers are in some writing.
-/
structure Chunk (α : Type) where
  x : Value α
  y : Value α
  z : Value α
  mask : RowMask
  write : Int → Value α

namespace Chunk

variable {α : Type} [Literal α]

/- The numbers of the mask fit in a byte, as it is written. -/
structure HasByteMask
    (chunk : Chunk α) :
    Prop where
  isWriting : RowMask.IsWriting chunk.write
  inRange : chunk.mask.InRange

/- The rows of a chunk, before its mask is applied. -/
def read
    [Scalar α]
    (dimensions : Dimensions)
    (chunk : Chunk α) :
    Except (Error α) (Batch α) :=
  (Observations.ofValues dimensions chunk.x chunk.y
      chunk.z).map
    fun data => ⟨data, chunk.mask⟩

end Chunk

namespace Context

variable {α : Type} [Scalar α] [Literal α]

/- Add a chunk to those that are open. -/
def addChunk
    (chunk : Chunk α) :
    Transition (Context α) α Unit :=
  updateEstimator
    (Estimator.add chunk.x chunk.y chunk.z
      (chunk.mask.toValue chunk.write))

/- Add chunks one after the other. -/
def addEach :
    List (Chunk α) → Transition (Context α) α Unit
  | [] => pure ()
  | chunk :: chunks => do
      addChunk chunk
      addEach chunks

/- Open a new list of chunks and add all of them to it. -/
def addAll
    (chunks : List (Chunk α)) :
    Transition (Context α) α Unit := do
  updateEstimator Estimator.start
  addEach chunks

/- The context with other open chunks. -/
def withPending
    (chunks : List (Observations α))
    (c : Context α) :
    Context α :=
  { c with
    estimator := { c.estimator with pending := some chunks } }

end Context

end NeighbourInfo

------------------------------------------------------------
-- Adding Chunks
------------------------------------------------------------

namespace NeighbourInfo

namespace Context

variable {α : Type} [Scalar α] [Literal α]

/- A chunk that is added adds the rows it retains. -/
theorem exists_batch_of_add
    {c : Context α}
    {former : List (Observations α)}
    (hPending : c.estimator.pending = some former)
    {chunk : Chunk α}
    (hMask : chunk.HasByteMask)
    {notes : List (Note α)}
    {after : Context α}
    (hOk : addChunk chunk c = (⟨notes, .ok ()⟩, after)) :
    ∃ b,
      chunk.read c.estimator.dimensions = .ok b ∧
        b.data.Fits c.estimator.dimensions ∧
        after = c.withPending (former ++ [b.kept]) := by
  unfold addChunk at hOk
  cases hAdd :
      Estimator.add chunk.x chunk.y chunk.z
        (chunk.mask.toValue chunk.write) c.estimator with
  | error e =>
      rw [updateEstimator_of_error hAdd] at hOk
      cases hOk
  | ok added =>
      rw [updateEstimator_of_ok hAdd] at hOk
      cases hOk
      rcases Estimator.eq_of_add hAdd with
        ⟨chunks, data, kept, hChunks, hData, hKept, rfl⟩
      have hFits := Observations.fits_ofValues hData
      refine ⟨⟨data, chunk.mask⟩, ?_, hFits, ?_⟩
      · rw [Chunk.read, hData]
        rfl
      · cases hPending.symm.trans hChunks
        rw [Observations.eq_pick_of_masked hFits.isAligned
          hMask.isWriting hMask.inRange hKept]
        rfl

/- So chunk by chunk the retained rows come together. -/
theorem exists_batches_of_addEach
    {c : Context α}
    {former : List (Observations α)}
    (hPending : c.estimator.pending = some former)
    {chunks : List (Chunk α)}
    (hMasks : ∀ chunk ∈ chunks, chunk.HasByteMask)
    (hOk : (addEach chunks c).1.result = .ok ()) :
    ∃ batches,
      chunks.mapM (Chunk.read c.estimator.dimensions) =
          .ok batches ∧
        (∀ b ∈ batches,
          b.data.Fits c.estimator.dimensions) ∧
        (addEach chunks c).2 =
          c.withPending (former ++ batches.map Batch.kept) := by
  -- The chunks after the first one find the rows of the first
  -- one open, so the context and `former` have to vary.
  induction chunks generalizing c former with
  | nil =>
      refine ⟨[], rfl, by simp, ?_⟩
      rw [List.map_nil, List.append_nil, withPending,
        ← hPending]
      rfl
  | cons chunk chunks ih =>
      rw [List.forall_mem_cons] at hMasks
      rw [addEach] at hOk ⊢
      rcases Transition.exists_of_bind_ok hOk with
        ⟨notes, _, after, hFirst, hRest⟩
      rcases
          exists_batch_of_add hPending hMasks.1 hFirst with
        ⟨b, hRead, hFits, rfl⟩
      rcases ih rfl hMasks.2 hRest with
        ⟨batches, hReads, hEach, hAfter⟩
      refine ⟨b :: batches, ?_, ?_, ?_⟩
      · have hReads' :
            chunks.mapM (Chunk.read c.estimator.dimensions) =
              .ok batches := hReads
        rw [List.mapM_cons, hRead, hReads']
        rfl
      · exact List.forall_mem_cons.mpr ⟨hFits, hEach⟩
      · rw [Transition.bind_ok hFirst]
        dsimp only
        rw [hAfter, List.map_cons, List.append_assoc]
        rfl

theorem exists_batches_of_addAll
    {c : Context α}
    {chunks : List (Chunk α)}
    (hMasks : ∀ chunk ∈ chunks, chunk.HasByteMask)
    (hOk : (addAll chunks c).1.result = .ok ()) :
    c.estimator.isInitialised = true ∧
      ∃ batches,
        chunks.mapM (Chunk.read c.estimator.dimensions) =
            .ok batches ∧
          (∀ b ∈ batches,
            b.data.Fits c.estimator.dimensions) ∧
          (addAll chunks c).2 =
            c.withPending (batches.map Batch.kept) := by
  unfold addAll at hOk ⊢
  rcases Transition.exists_of_bind_ok hOk with
    ⟨notes, _, after, hStart, hRest⟩
  cases hOpen : c.estimator.start with
  | error e =>
      rw [updateEstimator_of_error hOpen] at hStart
      cases hStart
  | ok opened =>
      have hAfter := updateEstimator_of_ok hOpen
      rw [hStart] at hAfter
      rcases Estimator.eq_of_start hOpen with ⟨hReady, rfl⟩
      cases hAfter
      rcases exists_batches_of_addEach rfl hMasks hRest with
        ⟨batches, hReads, hFits, hAdded⟩
      refine ⟨hReady, batches, hReads, hFits, ?_⟩
      rw [Transition.bind_ok hStart]
      exact hAdded

end Context

end NeighbourInfo

------------------------------------------------------------
-- Completing Chunks
------------------------------------------------------------

namespace NeighbourInfo

namespace Context

variable {α : Type} [Scalar α] {c : Context α}

/- Batches come to nothing but the rows they retain. -/
theorem finalise_batches
    (hNoise : c.estimator.settings.noise = none)
    {batches : List (Batch α)}
    (hFits :
      ∀ b ∈ batches, b.data.Fits c.estimator.dimensions) :
    let whole := Batch.whole c.estimator.dimensions batches
    let done :=
      finalise (c.withPending (batches.map Batch.kept))
    done.1.result =
        (if whole.size = 0 then .error .noObservations
        else .ok ()) ∧
      done.2.estimator =
        if whole.size = 0 then
          { c.estimator with pending := none }
        else
          c.estimator.holding
            (Observations.prepared
              c.estimator.settings.normalise [whole]) := by
  intro whole done
  let opened := c.withPending (batches.map Batch.kept)
  have hPending :
      opened.estimator.pending =
        some (batches.map Batch.kept) := rfl
  have hSize :
      (Observations.concat (batches.map Batch.kept)).size =
        whole.size := by
    rw [Batch.size_concat_kept, Batch.size_whole]
  have hResult := result_finalise hPending hNoise
  rw [hSize] at hResult
  refine ⟨hResult, ?_⟩
  by_cases hNone : whole.size = 0
  · rw [if_pos hNone]
    have hEmpty :=
      finalise_of_empty hPending (hSize.trans hNone)
    exact congrArg (fun run => run.2.estimator) hEmpty
  · rw [if_neg hNone]
    have hSome : Batch.origins batches ≠ [] := by
      rw [Batch.size_whole] at hNone
      exact mt List.length_eq_zero_iff.mpr hNone
    have hWhole := Batch.concat_kept hFits hSome
    have hHeld :=
      estimator_finalise hPending hNoise (hSize ▸ hNone)
    have hPrepared :
        Observations.prepared c.estimator.settings.normalise
            (batches.map Batch.kept) =
          Observations.prepared c.estimator.settings.normalise
            [whole] := by
      unfold Observations.prepared
      rw [hWhole, Observations.concat_singleton]
    rw [← hPrepared]
    exact hHeld

end Context

end NeighbourInfo

------------------------------------------------------------
-- Loading In Chunks
------------------------------------------------------------

namespace NeighbourInfo

namespace Context

variable {α : Type} [Scalar α] [Literal α] {c : Context α}

/-
  Loading in chunks is loading at once.  The retained rows of
  all chunks come one after the other, each of them just once,
  and with one origin for all three variables.  Chunks cannot
  be completed just where no row is retained.  Otherwise the
  estimator is the one that takes all retained rows at once;
  if they are standardised, then all together.  Other chunks
  with the same retained rows end in the same way.  It makes
  no difference whether the rows of a single column are given
  as numbers or as lists of one, and the mask of finite rows
  is one of the masks that may be given.
-/
theorem finalise_addAll
    (hNoise : c.estimator.settings.noise = none)
    {chunks : List (Chunk α)}
    (hMasks : ∀ chunk ∈ chunks, chunk.HasByteMask)
    (hOk : (addAll chunks c).1.result = .ok ()) :
    let dimensions := c.estimator.dimensions
    let done := finalise (addAll chunks c).2
    (∃ batches,
      chunks.mapM (Chunk.read dimensions) = .ok batches ∧
      let origins := Batch.origins batches
      let whole := Batch.whole dimensions batches
      let one :=
        setObservations (.ofRows whole.x.rows)
          (.ofRows whole.y.rows) (.ofRows whole.z.rows) c
      (∀ i row,
        (i, row) ∈ origins ↔
          ∃ b,
            batches[i]? = some b ∧
              row < b.data.size ∧ b.mask.keeps row) ∧
      origins.Nodup ∧
      (origins.Pairwise fun p q =>
        p.1 < q.1 ∨ (p.1 = q.1 ∧ p.2 < q.2)) ∧
      done.1.result =
        (if origins = [] then .error .noObservations
        else .ok ()) ∧
      (origins ≠ [] →
        one.1.result = .ok () ∧
        done.2.estimator = one.2.estimator ∧
        done.2.estimator.observations =
          some
            (Observations.prepared
              c.estimator.settings.normalise [whole])) ∧
      ∀ chunks' batches',
        (∀ chunk ∈ chunks', chunk.HasByteMask) →
        (addAll chunks' c).1.result = .ok () →
        chunks'.mapM (Chunk.read dimensions) = .ok batches' →
        Batch.whole dimensions batches' = whole →
          let done' := finalise (addAll chunks' c).2
          done'.1.result = done.1.result ∧
            done'.2.estimator = done.2.estimator) ∧
    (∀ vs : List (Value α),
      (∀ v ∈ vs, v.shape? = some []) →
        Table.ofValue (1 : Nat)
            (.list (vs.map fun v => .list [v])) =
          Table.ofValue (1 : Nat) (.list vs)) ∧
    ∀ (v : Value α) (m : Mask),
      Mask.finite v = .ok m → (RowMask.flat m).InRange := by
  intro dimensions done
  refine
    ⟨?_, fun vs => Table.ofValue_column rfl,
      fun v m => RowMask.inRange_finite⟩
  rcases exists_batches_of_addAll hMasks hOk with
    ⟨hReady, batches, hReads, hFits, hAdded⟩
  refine ⟨batches, hReads, ?_⟩
  intro origins whole one
  have hDone := finalise_batches hNoise hFits
  rw [← hAdded] at hDone
  have hEmpty : whole.size = 0 ↔ origins = [] := by
    rw [Batch.size_whole, List.length_eq_zero_iff]
  refine
    ⟨fun i row => Batch.mem_origins_iff,
      Batch.nodup_origins batches,
      Batch.pairwise_origins batches, ?_, ?_, ?_⟩
  · rw [← if_congr hEmpty rfl rfl]
    exact hDone.1
  · intro hSome
    have hRows : whole.size ≠ 0 := mt hEmpty.mp hSome
    have hChunk :=
      Observations.ofValues_ofRows
        (Batch.fits_whole hFits hSome) hRows
    rcases
        setObservations_of_rows hReady hNoise hChunk hRows with
      ⟨hOne, hHolding⟩
    have hHeld := hDone.2.trans (if_neg hRows)
    refine ⟨hOne, hHeld.trans hHolding.symm, ?_⟩
    exact congrArg Estimator.observations hHeld
  · intro chunks' batches' hMasks' hOk' hReads' hSame done'
    rcases exists_batches_of_addAll hMasks' hOk' with
      ⟨-, _, hReads'', hFits', hAdded'⟩
    cases hReads'.symm.trans hReads''
    have hDone' := finalise_batches hNoise hFits'
    rw [← hAdded'] at hDone'
    change
      Batch.whole c.estimator.dimensions batches' = whole
      at hSame
    dsimp only at hDone'
    rw [hSame] at hDone'
    exact
      ⟨hDone'.1.trans hDone.1.symm,
        hDone'.2.trans hDone.2.symm⟩

/- Two chunks with masks, an empty one and a column. -/
theorem finalise_addAll_rationals :
    let column (entries : List ℚ) : Value ℚ :=
      .ofRows (entries.map fun a => [a])
    let numbers (entries : List ℚ) : Value ℚ :=
      .list (entries.map .real)
    let chunks : List (Chunk ℚ) :=
      [⟨column [1, 2, 3], column [5, 5, 6],
          numbers [0, 1, 0], .flat [1, 0, 127], .whole⟩,
        ⟨numbers [], numbers [], numbers [], .all, .whole⟩,
        ⟨numbers [8, 9], column [8, 9], column [8, 9],
          .grid [[1, 0], [-128, 3]], .whole⟩,
        ⟨numbers [4, 7], numbers [2, 3], column [1, 0],
          .flat [-1, 1], fun n => .real n⟩]
    let whole : Observations ℚ :=
      ⟨⟨1, [[1], [3], [7]]⟩, ⟨1, [[5], [6], [3]]⟩,
        ⟨1, [[0], [0], [0]]⟩⟩
    let e : Estimator ℚ :=
      { Estimator.create (some (.counting .first))
          (.initial (.whole 1) (.count 1)) with
        dimensions := ⟨1, 1, 1⟩
        isInitialised := true }
    let c : Context ℚ := ⟨e, .initial none default⟩
    let done := finalise (addAll chunks c).2
    (addAll chunks c).1.result = .ok () ∧
      done.1.result = .ok () ∧
      done.2.estimator.observations =
        some (Observations.prepared true [whole]) := by
  intro column numbers chunks whole e c done
  have hOk : (addAll chunks c).1.result = .ok () := by
    rfl
  let batches : List (Batch ℚ) :=
    [⟨⟨⟨1, [[1], [2], [3]]⟩, ⟨1, [[5], [5], [6]]⟩,
        ⟨1, [[0], [1], [0]]⟩⟩, .flat [1, 0, 127]⟩,
      ⟨⟨⟨1, []⟩, ⟨1, []⟩, ⟨1, []⟩⟩, .all⟩,
      ⟨⟨⟨1, [[8], [9]]⟩, ⟨1, [[8], [9]]⟩, ⟨1, [[8], [9]]⟩⟩,
        .grid [[1, 0], [-128, 3]]⟩,
      ⟨⟨⟨1, [[4], [7]]⟩, ⟨1, [[2], [3]]⟩, ⟨1, [[1], [0]]⟩⟩,
        .flat [-1, 1]⟩]
  have hReads :
      chunks.mapM (Chunk.read c.estimator.dimensions) =
        .ok batches := by
    rfl
  have hWhole :
      Batch.whole c.estimator.dimensions batches = whole := by
    rfl
  have hSome : Batch.origins batches ≠ [] := by decide
  have hWords :
      RowMask.IsWriting (.whole : Int → Value ℚ) :=
    .whole fun _ => rfl
  have hReals :
      RowMask.IsWriting fun n => (.real n : Value ℚ) := by
    apply RowMask.IsWriting.real (fun n => (n : ℚ))
    · intro n
      rfl
    · intro n _ _
      simp [Literal.truncate?]
  have hMasks : ∀ chunk ∈ chunks, chunk.HasByteMask := by
    simp only [chunks, List.forall_mem_cons]
    exact
      ⟨⟨hWords, by decide⟩, ⟨hWords, by decide⟩,
        ⟨hWords, by decide⟩, ⟨hReals, by decide⟩, by simp⟩
  rcases finalise_addAll (c := c) rfl hMasks hOk with
    ⟨⟨read, hRead, -, -, -, hResult, hHeld, -⟩, -⟩
  have hSame : read = batches :=
    Except.ok.inj (hRead.symm.trans hReads)
  rw [hSame] at hResult hHeld
  rcases hHeld hSome with ⟨-, -, hObservations⟩
  rw [if_neg hSome] at hResult
  rw [hWhole] at hObservations
  refine ⟨hOk, ?_, ?_⟩
  · rw [hResult]
  · rw [hObservations]
    rfl

end Context

end NeighbourInfo
