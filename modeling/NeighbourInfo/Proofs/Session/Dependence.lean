import NeighbourInfo.Proofs.Session.Changes
import NeighbourInfo.Proofs.Session.Failure

/-
  What a command depends on, and what it leaves alone.

  Key definitions include:
    * `NeighbourInfo.Context.seen`
    * `NeighbourInfo.Shared.defaults`
    * `NeighbourInfo.Command.CanDraw`

  A command sees the estimator that it is given to, the supply
  of chance and the number of processors.  It sees neither the
  record of the last computation nor the defaults, and leaves
  the defaults alone.  From the supply of chance it draws only
  where noise is on, or where permutations are not given.

  This is proven by:
    * `NeighbourInfo.Context.dependsOn_compute`
    * `NeighbourInfo.Context.dependsOn_exchanging`
    * `NeighbourInfo.Command.dependsOn_run`
    * `NeighbourInfo.Command.leaves_defaults`
    * `NeighbourInfo.Command.supply_run`
-/

------------------------------------------------------------
-- What Commands Depend On
------------------------------------------------------------

namespace NeighbourInfo

namespace Context

variable {α β : Type}

/- What a command sees of the context that it is run in. -/
def seen
    (c : Context α) :
    Estimator α × Chance α × Nat :=
  (c.estimator, c.shared.chance, c.shared.processors)

/- Contexts look the same if they agree in three parts. -/
theorem seen_eq_iff
    {c c' : Context α} :
    c.seen = c'.seen ↔
      c.estimator = c'.estimator ∧
        c.shared.chance = c'.shared.chance ∧
        c.shared.processors = c'.shared.processors := by
  simp [seen, Prod.ext_iff]

theorem dependsOn_estimator? :
    Transition.DependsOn seen
      (estimator? : Transition (Context α) α _) := by
  intro c c' hSeen
  rcases seen_eq_iff.mp hSeen with ⟨hEstimator, -⟩
  unfold estimator?
  rw [hEstimator]
  exact ⟨rfl, hSeen⟩

theorem dependsOn_updateEstimator
    (f : Estimator α → Except (Error α) (Estimator α)) :
    Transition.DependsOn seen (updateEstimator f) := by
  refine Transition.dependsOn_change fun c c' hSeen => ?_
  rcases seen_eq_iff.mp hSeen with
    ⟨hEstimator, hChance, hProcessors⟩
  dsimp only
  rw [hEstimator]
  cases f c'.estimator with
  | error e => rfl
  | ok e =>
      refine congrArg (fun after => Except.ok ((), after)) ?_
      exact seen_eq_iff.mpr ⟨rfl, hChance, hProcessors⟩

theorem dependsOn_method
    (missing : Error α) :
    Transition.DependsOn seen (method missing) := by
  unfold method
  refine dependsOn_estimator?.bind fun e => ?_
  cases e.method with
  | none => exact Transition.dependsOn_ofExcept _
  | some m => exact Transition.dependsOn_pure m

/- The summary is written, and not looked at. -/
theorem dependsOn_record
    (computation : Computation α) :
    Transition.DependsOn seen (record computation) :=
  fun _ _ hSeen => ⟨rfl, hSeen⟩

theorem dependsOn_compute
    (missing : Error α)
    (evaluate :
      Method α → Settings α → Observations α →
        Report α (Computation α × β)) :
    Transition.DependsOn seen (compute missing evaluate) := by
  unfold compute
  refine (dependsOn_method missing).bind fun m => ?_
  refine dependsOn_estimator?.bind fun e => ?_
  refine (Transition.dependsOn_ofExcept _).bind fun data => ?_
  refine (Transition.dependsOn_report _).bind fun pair => ?_
  rcases pair with ⟨computation, result⟩
  refine (dependsOn_record computation).bind fun _ => ?_
  exact Transition.dependsOn_pure result

theorem dependsOn_exchanging
    (chosen : Variable)
    (former : Table α)
    (t : Table α)
    {operation : Transition (Context α) α β}
    (hOperation : Transition.DependsOn seen operation) :
    Transition.DependsOn seen
      (exchanging chosen former t operation) := by
  intro c c' hSeen
  rcases seen_eq_iff.mp hSeen with
    ⟨hEstimator, hChance, hProcessors⟩
  have hExchanged :
      (c.withTable t chosen).seen =
        (c'.withTable t chosen).seen :=
    seen_eq_iff.mpr
      ⟨congrArg (Estimator.withTable t chosen) hEstimator,
        hChance, hProcessors⟩
  rcases hOperation _ _ hExchanged with ⟨hReport, hAfter⟩
  rcases seen_eq_iff.mp hAfter with
    ⟨hEstimator, hChance, hProcessors⟩
  exact
    ⟨hReport,
      seen_eq_iff.mpr
        ⟨congrArg (Estimator.withTable former chosen)
            hEstimator,
          hChance, hProcessors⟩⟩

variable [Scalar α]

theorem dependsOn_plainAverage :
    Transition.DependsOn seen (plainAverage (α := α)) := by
  unfold plainAverage
  refine (dependsOn_compute _ _).bind fun value => ?_
  refine (dependsOn_updateEstimator _).bind fun _ => ?_
  refine dependsOn_estimator?.bind fun e => ?_
  refine (Transition.dependsOn_report _).bind fun _ => ?_
  exact Transition.dependsOn_pure value

theorem dependsOn_locals :
    Transition.DependsOn seen (locals (α := α)) := by
  unfold locals
  refine (dependsOn_compute _ _).bind fun values => ?_
  refine (dependsOn_updateEstimator _).bind fun _ => ?_
  exact Transition.dependsOn_pure values

/- The last stage takes from the supply what it has in it. -/
theorem dependsOn_finalise :
    Transition.DependsOn seen (finalise (α := α)) := by
  unfold finalise
  refine Transition.DependsOn.bind ?_ fun chunks => ?_
  · refine Transition.dependsOn_change fun c c' hSeen => ?_
    rcases seen_eq_iff.mp hSeen with
      ⟨hEstimator, hChance, hProcessors⟩
    rw [hEstimator]
    rcases c'.estimator.close with e | ⟨chunks, closed⟩
    · rfl
    · refine
        congrArg (fun after => Except.ok (chunks, after)) ?_
      exact seen_eq_iff.mpr ⟨rfl, hChance, hProcessors⟩
  · refine (dependsOn_updateEstimator _).bind fun _ => ?_
    refine Transition.dependsOn_change fun c c' hSeen => ?_
    rcases seen_eq_iff.mp hSeen with
      ⟨hEstimator, hChance, hProcessors⟩
    dsimp only
    rw [hEstimator, hChance]
    rcases c'.estimator.addNoise c'.shared.chance with
      e | ⟨noisy, chance⟩
    · rfl
    · refine congrArg (fun after => Except.ok ((), after)) ?_
      exact seen_eq_iff.mpr ⟨rfl, rfl, hProcessors⟩

theorem dependsOn_chooseOrderings
    (rows : Nat)
    (count : Value α)
    (orderings : Value α) :
    Transition.DependsOn seen
      (chooseOrderings rows count orderings) := by
  unfold chooseOrderings
  split
  · refine
      (Transition.dependsOn_ofExcept _).bind fun count => ?_
    refine Transition.DependsOn.bind ?_ fun drawn =>
      Transition.dependsOn_pure _
    intro c c' hSeen
    rcases seen_eq_iff.mp hSeen with
      ⟨hEstimator, hChance, hProcessors⟩
    unfold onShared Shared.drawPermutations Transition.change
    dsimp only
    rw [hChance]
    rcases c'.shared.chance.permutations? rows count with
      e | ⟨drawn, chance⟩
    · exact ⟨rfl, hSeen⟩
    · exact
        ⟨rfl, seen_eq_iff.mpr ⟨hEstimator, rfl, hProcessors⟩⟩
  · exact Transition.dependsOn_pure _

variable [Literal α]

theorem dependsOn_setObservations
    (x : Value α)
    (y : Value α)
    (z : Value α) :
    Transition.DependsOn seen (setObservations x y z) := by
  unfold setObservations
  refine (dependsOn_updateEstimator _).bind fun _ => ?_
  refine (dependsOn_updateEstimator _).bind fun _ => ?_
  exact dependsOn_finalise

theorem dependsOn_average
    (chosen : Value α)
    (ordering : Value α) :
    Transition.DependsOn seen (average chosen ordering) := by
  unfold average
  split
  · exact dependsOn_plainAverage
  · unfold reorderedAverage
    refine (dependsOn_method _).bind fun m => ?_
    refine dependsOn_estimator?.bind fun e => ?_
    refine
      (Transition.dependsOn_ofExcept _).bind fun data => ?_
    refine (Transition.dependsOn_ofExcept _).bind fun v => ?_
    refine (Transition.dependsOn_ofExcept _).bind fun t => ?_
    exact dependsOn_exchanging _ _ _ (dependsOn_compute _ _)

theorem dependsOn_significance
    (chosen : Value α)
    (count : Value α)
    (orderings : Value α) :
    Transition.DependsOn seen
      (significance chosen count orderings) := by
  unfold significance
  refine dependsOn_estimator?.bind fun e => ?_
  refine (Transition.dependsOn_ofExcept _).bind fun data => ?_
  refine (Transition.dependsOn_ofExcept _).bind fun v => ?_
  refine
    (dependsOn_chooseOrderings _ _ _).bind fun orderings => ?_
  refine (dependsOn_average _ _).bind fun actual => ?_
  split
  · refine Transition.DependsOn.bind ?_ fun values =>
      Transition.dependsOn_pure _
    exact Transition.DependsOn.mapM (dependsOn_average _) _
  · exact Transition.dependsOn_ofExcept _

end Context

namespace Command

variable {α : Type} [Scalar α] [Literal α]

/-
  What a command answers, and what becomes of the estimator,
  depends neither on the last computation nor on defaults.
-/
theorem dependsOn_run
    (command : Command α) :
    Transition.DependsOn Context.seen command.run := by
  unfold run
  cases command with
  | initialise dims =>
      exact (Context.dependsOn_updateEstimator _).map _
  | set name v =>
      refine Transition.dependsOn_bind_current ?_ fun c =>
        (Context.dependsOn_updateEstimator _).map _
      intro c c' hSeen
      rcases Context.seen_eq_iff.mp hSeen with ⟨-, -, hCount⟩
      rw [hCount]
  | get name =>
      refine Context.dependsOn_estimator?.bind fun e => ?_
      exact (Transition.dependsOn_ofExcept _).map _
  | setDebug v =>
      exact (Context.dependsOn_updateEstimator _).map _
  | setObservations x y z =>
      exact (Context.dependsOn_setObservations x y z).map _
  | start => exact (Context.dependsOn_updateEstimator _).map _
  | add x y z mask =>
      exact (Context.dependsOn_updateEstimator _).map _
  | finalise => exact Context.dependsOn_finalise.map _
  | average chosen ordering =>
      exact (Context.dependsOn_average chosen ordering).map _
  | locals => exact Context.dependsOn_locals.map _
  | localsOf x y z =>
      have hRefused :
          Transition.DependsOn Context.seen
            (Context.localsOfNew (α := α)) :=
        (Context.dependsOn_method _).bind fun _ =>
          Transition.dependsOn_ofExcept _
      exact hRefused.map _
  | significance chosen count orderings =>
      exact
        (Context.dependsOn_significance chosen count
          orderings).map _
  | size => exact Context.dependsOn_estimator?.map _
  | lastAverage => exact Context.dependsOn_estimator?.map _
  | observations => exact Context.dependsOn_estimator?.map _

end Command

end NeighbourInfo

------------------------------------------------------------
-- What Commands Change
------------------------------------------------------------

namespace NeighbourInfo

variable {α : Type}

/- The shared state that no command changes. -/
def Shared.defaults
    (s : Shared α) :
    Nat × Value α × ThreadDefault :=
  (s.processors, s.defaultK, s.threads)

/-
  The command may draw from the supply of chance, as noise is
  on or permutations are not given.
-/
def Command.CanDraw
    (e : Estimator α) :
    Command α → Prop
  | .setObservations _ _ _ => e.settings.noise.isSome
  | .finalise => e.settings.noise.isSome
  | .significance _ _ orderings => orderings = .null
  | _ => False

namespace Context

/- The supply of chance of a context. -/
def supply
    (c : Context α) :
    Chance α :=
  c.shared.chance

theorem leaves_supply_updateEstimator
    (f : Estimator α → Except (Error α) (Estimator α)) :
    Transition.Leaves supply (updateEstimator f) := by
  intro c
  cases hRun : f c.estimator with
  | error e => rw [updateEstimator_of_error hRun]
  | ok e =>
      rw [updateEstimator_of_ok hRun]
      rfl

variable [Scalar α]

theorem leaves_supply_plainAverage :
    Transition.Leaves supply (plainAverage (α := α)) := by
  intro c
  rw [plainAverage_eq]
  rcases c.estimator.averaging with
    ⟨notes, e | ⟨computation, value⟩⟩
  · rfl
  · rfl

theorem leaves_supply_locals :
    Transition.Leaves supply (locals (α := α)) := by
  intro c
  rw [locals_eq]
  rcases c.estimator.localising with
    ⟨notes, e | ⟨computation, values⟩⟩
  · rfl
  · rfl

/- Without noise nothing is drawn when rows are completed. -/
theorem supply_finalise
    {c : Context α}
    (hSilent : c.estimator.settings.noise = none) :
    (finalise c).2.supply = c.supply := by
  rw [finalise_eq]
  rcases hClose : c.estimator.close with e | ⟨chunks, closed⟩
  · rfl
  · rcases Estimator.eq_of_close hClose with ⟨-, rfl⟩
    dsimp only
    cases hInstall :
        Estimator.install chunks
          { c.estimator with pending := none } with
    | error e => rfl
    | ok installed =>
        have hNoise :
            installed.addNoise c.shared.chance =
              .ok (installed, c.shared.chance) := by
          unfold Estimator.addNoise
          rw [(Estimator.eq_hold_of_install hInstall).2]
          dsimp only [Estimator.hold]
          rw [hSilent]
        dsimp only
        rw [hNoise]
        rfl

variable [Literal α]

theorem supply_setObservations
    {c : Context α}
    (hSilent : c.estimator.settings.noise = none)
    (x : Value α)
    (y : Value α)
    (z : Value α) :
    (setObservations x y z c).2.supply = c.supply := by
  cases hAdded : c.estimator.startWith x y z with
  | error e =>
      rcases (setObservations_of_error hAdded).2 with
        ⟨pending, hAfter⟩
      rw [hAfter]
      rfl
  | ok added =>
      rcases Estimator.eq_of_startWith hAdded with
        ⟨-, chunk, -, rfl⟩
      rw [setObservations_of_ok hAdded]
      exact supply_finalise hSilent

theorem leaves_supply_average
    (chosen : Value α)
    (ordering : Value α) :
    Transition.Leaves supply (average chosen ordering) := by
  by_cases hPlain : ordering = .null
  · subst hPlain
    exact leaves_supply_plainAverage
  · rw [average_of_ne chosen hPlain]
    intro c
    rcases reorderedAverage_cases chosen ordering c with
      ⟨notes, e, hRun⟩ | ⟨notes, computation, value, hRun⟩
    · rw [hRun]
    · rw [hRun]
      rfl

/- Orderings that are given are not drawn. -/
theorem leaves_supply_significance
    (chosen : Value α)
    (count : Value α)
    {orderings : Value α}
    (hGiven : orderings ≠ .null) :
    Transition.Leaves supply
      (significance chosen count orderings) := by
  have hChosen (rows : Nat) :
      chooseOrderings rows count orderings =
        pure orderings := by
    unfold chooseOrderings
    split
    · exact absurd rfl hGiven
    · rfl
  rw [significance_eq]
  unfold chosenOrderings surrogates
  refine Transition.Leaves.bind ?_ fun orderings => ?_
  · refine Transition.Leaves.bind (fun c => rfl) fun e => ?_
    refine (Transition.leaves_ofExcept _).bind fun data => ?_
    refine (Transition.leaves_ofExcept _).bind fun v => ?_
    rw [hChosen]
    exact Transition.leaves_pure _
  · refine leaves_supply_plainAverage.bind fun actual => ?_
    split
    · refine Transition.Leaves.bind ?_ fun values =>
        Transition.leaves_pure _
      refine Transition.leaves_of_keeps fun chance => ?_
      refine Transition.Keeps.mapM (fun ordering => ?_) _
      intro c hChance
      exact (leaves_supply_average _ _ c).trans hChance
    · exact Transition.leaves_ofExcept _

end Context

namespace Command

variable [Scalar α] [Literal α]

/- The defaults and the processors are left as they are. -/
theorem leaves_defaults
    (command : Command α) :
    Transition.Leaves (fun c => c.shared.defaults)
      command.run := by
  refine Transition.leaves_of_keeps fun defaults => ?_
  refine keeps_run ?_ command fun _ _ _ _ _ hSame => hSame
  intro c after hChange hSame
  cases hChange with
  | estimator hChange => exact hSame
  | record computation => exact hSame
  | draw chance => exact hSame

/- A command that cannot draw does not draw. -/
theorem supply_run
    {command : Command α}
    {c : Context α}
    (hSilent : ¬ command.CanDraw c.estimator) :
    (command.run c).2.supply = c.supply := by
  cases command with
  | initialise dims =>
      exact (Context.leaves_supply_updateEstimator _).map _ c
  | set name v =>
      have hCurrent :
          (Transition.current : Transition (Context α) α _) c =
            (⟨[], .ok c⟩, c) := rfl
      unfold run
      dsimp only
      rw [Transition.bind_of_read hCurrent]
      exact (Context.leaves_supply_updateEstimator _).map _ c
  | get name =>
      exact congrArg Context.supply (leaves_get name c)
  | setDebug v =>
      exact (Context.leaves_supply_updateEstimator _).map _ c
  | setObservations x y z =>
      have hNone := Option.not_isSome_iff_eq_none.mp hSilent
      exact
        (congrArg Context.supply
          (Transition.state_map _ _ c)).trans
          (Context.supply_setObservations hNone x y z)
  | start =>
      exact (Context.leaves_supply_updateEstimator _).map _ c
  | add x y z mask =>
      exact (Context.leaves_supply_updateEstimator _).map _ c
  | finalise =>
      have hNone := Option.not_isSome_iff_eq_none.mp hSilent
      exact
        (congrArg Context.supply
          (Transition.state_map _ _ c)).trans
          (Context.supply_finalise hNone)
  | average chosen ordering =>
      exact (Context.leaves_supply_average _ _).map _ c
  | locals => exact Context.leaves_supply_locals.map _ c
  | localsOf x y z =>
      exact congrArg Context.supply (leaves_localsOf x y z c)
  | significance chosen count orderings =>
      exact
        (Context.leaves_supply_significance _ _ hSilent).map _ c
  | size => rfl
  | lastAverage => rfl
  | observations => rfl

end Command

end NeighbourInfo
