import NeighbourInfo.Proofs.Session.Operations

/-
  How observations are completed.

  Key definitions include:
    * `NeighbourInfo.Estimator.holding`
    * `NeighbourInfo.Observations.completed`

  The chunks are closed, then the observations are installed,
  then noise is added.  Only whether there are rows decides
  about the second stage, and only the level of the noise
  about the third.

  This is proven by:
    * `NeighbourInfo.Context.finalise_eq`
    * `NeighbourInfo.Context.finalise_of_none`
    * `NeighbourInfo.Context.finalise_of_rows`
    * `NeighbourInfo.Context.setObservations_of_error`
    * `NeighbourInfo.Context.setObservations_of_ok`
-/

------------------------------------------------------------
-- New Observations
------------------------------------------------------------

namespace NeighbourInfo

variable {α : Type}

/- The estimator with new observations and nothing else. -/
def Estimator.holding
    (data : Observations α)
    (e : Estimator α) :
    Estimator α :=
  { e with
    pending := none
    observations := some data
    lastAverage := none }

variable [Scalar α]

/-
  The observations that are made from chunks, and whether they
  have all that they should have.
-/
def Observations.completed
    (settings : Settings α)
    (chance : Chance α)
    (chunks : List (Observations α)) :
    Except (Error α) Unit × Observations α :=
  let data := prepared settings.normalise chunks
  match settings.noise with
  | none => (.ok (), data)
  | some level =>
      if Scalar.isNegative level then
        (.error .negativeScale, data)
      else (.ok (), data.withNoise level chance)

/- Nothing but the level of the noise can be wrong by then. -/
theorem Observations.result_completed
    (settings : Settings α)
    (chance : Chance α)
    (chunks : List (Observations α)) :
    (completed settings chance chunks).1 = .ok () ∨
      (completed settings chance chunks).1 =
        .error .negativeScale := by
  unfold completed
  cases settings.noise with
  | none => exact .inl rfl
  | some level =>
      by_cases hSign : Scalar.isNegative level = true
      · simp [hSign]
      · simp [hSign]

/- Noise is all that is left to be done once rows are held. -/
theorem Estimator.addNoise_holding
    (e : Estimator α)
    (data : Observations α)
    (chance : Chance α) :
    (e.holding data).addNoise chance =
      match e.settings.noise with
      | none => .ok (e.holding data, chance)
      | some level =>
          (data.addNoise level chance).map
            fun (noisy, after) => (e.holding noisy, after) := by
  unfold addNoise
  cases hLevel : e.settings.noise with
  | none =>
      have hHolding : (e.holding data).settings.noise = none :=
        hLevel
      rw [hHolding]
  | some level =>
      have hHolding :
          (e.holding data).settings.noise = some level :=
        hLevel
      rw [hHolding]
      rfl

end NeighbourInfo

------------------------------------------------------------
-- Completing Observations
------------------------------------------------------------

namespace NeighbourInfo

namespace Context

variable {α : Type} [Scalar α]

/-
  The three stages of completing the observations.  A failure
  leaves what the stages before it have changed.
-/
theorem finalise_eq
    (c : Context α) :
    finalise c =
      match c.estimator.close with
      | .error e => (⟨[], .error e⟩, c)
      | .ok (chunks, closed) =>
          match closed.install chunks with
          | .error e =>
              (⟨[], .error e⟩, { c with estimator := closed })
          | .ok installed =>
              match installed.addNoise c.shared.chance with
              | .error e =>
                  (⟨[], .error e⟩,
                    { c with estimator := installed })
              | .ok (noisy, chance) =>
                  (⟨[], .ok ()⟩,
                    ⟨noisy,
                      { c.shared with chance := chance }⟩) := by
  unfold finalise
  rcases hClose : c.estimator.close with e | ⟨chunks, closed⟩
  · rw [Transition.bind_error
      (Transition.change_error (by simp only [hClose]; rfl))]
  · rw [Transition.bind_ok
      (Transition.change_ok (by simp only [hClose]; rfl))]
    dsimp only
    cases hInstall : closed.install chunks with
    | error e =>
        rw [Transition.bind_error
          (updateEstimator_of_error hInstall)]
        rfl
    | ok installed =>
        rw [Transition.bind_ok
          (updateEstimator_of_ok hInstall)]
        dsimp only
        rcases hNoise : installed.addNoise c.shared.chance with
          e | ⟨noisy, chance⟩
        · rw [Transition.update, Transition.change_error
            (by simp only [hNoise]; rfl)]
          rfl
        · rw [Transition.update, Transition.change_ok
            (by simp only [hNoise]; rfl)]
          rfl

/- Without rows there is nothing but a list to be closed. -/
theorem finalise_of_none
    {c : Context α}
    (hNone :
      ∀ chunks, c.estimator.pending = some chunks →
        (Observations.concat chunks).size = 0) :
    (∃ refusal, (finalise c).1.result = .error refusal) ∧
      ∃ pending,
        (finalise c).2 =
          { c with
            estimator :=
              { c.estimator with pending := pending } } := by
  rw [finalise_eq]
  rcases hClose : c.estimator.close with e | ⟨chunks, closed⟩
  · exact ⟨⟨e, rfl⟩, c.estimator.pending, rfl⟩
  · rcases Estimator.eq_of_close hClose with ⟨hPending, rfl⟩
    dsimp only
    rw [Estimator.install_eq, if_pos (hNone chunks hPending)]
    exact ⟨⟨.noObservations, rfl⟩, none, rfl⟩

/- Rows are installed in any case, with or without noise. -/
theorem finalise_of_rows
    {c : Context α}
    {chunks : List (Observations α)}
    (hPending : c.estimator.pending = some chunks)
    (hRows : (Observations.concat chunks).size ≠ 0) :
    let completed :=
      Observations.completed c.estimator.settings
        c.shared.chance chunks
    (finalise c).1.result = completed.1 ∧
      (finalise c).2.estimator =
        c.estimator.holding completed.2 := by
  intro completed
  let e := c.estimator
  let data :=
    Observations.prepared e.settings.normalise chunks
  have hClose :
      e.close = .ok (chunks, { e with pending := none }) := by
    unfold Estimator.close Estimator.openChunks
    rw [hPending]
    rfl
  have hInstall :
      Estimator.install chunks { e with pending := none } =
        .ok (e.holding data) := by
    rw [Estimator.install_eq, if_neg hRows]
    rfl
  rw [finalise_eq, hClose]
  dsimp only
  rw [hInstall]
  dsimp only
  rw [Estimator.addNoise_holding]
  unfold completed Observations.completed
  dsimp only
  cases c.estimator.settings.noise with
  | none => exact ⟨rfl, rfl⟩
  | some level =>
      dsimp only
      rw [Observations.addNoise_eq]
      by_cases hSign : Scalar.isNegative level = true
      · rw [if_pos hSign, if_pos hSign]
        exact ⟨rfl, rfl⟩
      · rw [if_neg hSign, if_neg hSign]
        exact ⟨rfl, rfl⟩

variable [Literal α]
variable {x y z : Value α} {c : Context α}

/- A chunk that cannot be added leaves a new list at most. -/
theorem setObservations_of_error
    {e : Error α}
    (hRefused : c.estimator.startWith x y z = .error e) :
    (setObservations x y z c).1.result = .error e ∧
      ∃ pending,
        (setObservations x y z c).2 =
          { c with
            estimator :=
              { c.estimator with pending := pending } } := by
  unfold setObservations
  unfold Estimator.startWith at hRefused
  cases hStart : c.estimator.start with
  | error e' =>
      rw [hStart] at hRefused
      cases hRefused
      rw [Transition.bind_error
        (updateEstimator_of_error hStart)]
      exact ⟨rfl, c.estimator.pending, rfl⟩
  | ok opened =>
      rw [hStart] at hRefused
      have hAdd : opened.add x y z .null = .error e := hRefused
      rcases Estimator.eq_of_start hStart with ⟨-, rfl⟩
      rw [Transition.bind_ok (updateEstimator_of_ok hStart)]
      dsimp only
      rw [Transition.bind_error (updateEstimator_of_error hAdd)]
      exact ⟨rfl, some [], rfl⟩

/- A chunk that can be added is completed. -/
theorem setObservations_of_ok
    {added : Estimator α}
    (hAdded : c.estimator.startWith x y z = .ok added) :
    setObservations x y z c =
      finalise { c with estimator := added } := by
  rcases exists_of_bind_eq_ok hAdded with
    ⟨opened, hStart, hAdd⟩
  unfold setObservations
  rw [Transition.bind_ok (updateEstimator_of_ok hStart),
    Transition.bind_ok
      (updateEstimator_of_ok
        (c := { c with estimator := opened }) hAdd)]
  rfl

end Context

end NeighbourInfo
