import NeighbourInfo.Session.Basic
import NeighbourInfo.Proofs.Session.Completing

/-
  The changes that an estimator and its context go through.

  Key definitions include:
    * `NeighbourInfo.Estimator.Change`
    * `NeighbourInfo.Context.Change`

  Whatever commands are given, and wherever they fail, what
  becomes of an estimator is made up of few kinds of change.
  Something that all of them keep true is therefore kept by
  every command.  Initialising, which drops what there was, is
  left out and has to be looked at on its own.

  This is proven by:
    * `NeighbourInfo.Context.keeps_average`
    * `NeighbourInfo.Context.keeps_significance`
    * `NeighbourInfo.Context.keeps_finalise`
    * `NeighbourInfo.Command.keeps_run`
-/

------------------------------------------------------------
-- Changes
------------------------------------------------------------

namespace NeighbourInfo

variable {α : Type} [Scalar α] [Literal α]

/-
  One change of an estimator, on a machine with so many
  processors.  New observations are installed together with
  the closing of their chunks; noise is only ever added before
  anything has been computed from them.
-/
inductive Estimator.Change
    (processors : Nat)
    (e : Estimator α) :
    Estimator α → Prop where
  | set
      {name v : Value α}
      {after : Estimator α}
      (hOk : e.set processors name v = .ok after) :
      Change processors e after
  | setDebug
      (debug : Bool) :
      Change processors e (e.setDebug debug)
  | start
      {after : Estimator α}
      (hOk : e.start = .ok after) :
      Change processors e after
  | add
      {x y z mask : Value α}
      {after : Estimator α}
      (hOk : e.add x y z mask = .ok after) :
      Change processors e after
  | close
      {chunks : List (Observations α)}
      {after : Estimator α}
      (hOk : e.close = .ok (chunks, after)) :
      Change processors e after
  | install
      {chunks : List (Observations α)}
      {closed after : Estimator α}
      (hClose : e.close = .ok (chunks, closed))
      (hOk : closed.install chunks = .ok after) :
      Change processors e after
  | addNoise
      {chance next : Chance α}
      {after : Estimator α}
      (hFresh : e.lastAverage = none)
      (hOk : e.addNoise chance = .ok (after, next)) :
      Change processors e after
  | average
      {computation : Computation α}
      {value : α}
      (hOk : e.averaging.result = .ok (computation, value)) :
      Change processors e (e.keeping value)
  | locals
      {computation : Computation α}
      {values : List α}
      (hOk : e.localising.result = .ok (computation, values)) :
      Change processors e (e.keeping (Scalar.mean values))

/-
  One change of a context.  All that commands change of what
  is shared is the summary and the supply of chance.
-/
inductive Context.Change
    (c : Context α) :
    Context α → Prop where
  | estimator
      {e : Estimator α}
      (hChange :
        c.estimator.Change c.shared.processors e) :
      Change c { c with estimator := e }
  | record
      (computation : Computation α) :
      Change c (c.recorded computation)
  | draw
      (chance : Chance α) :
      Change c
        { c with shared := { c.shared with chance := chance } }

/- What changes of an estimator keep is kept in its context. -/
theorem Context.Change.keeps_estimator
    {ofEstimator : Estimator α → Prop}
    (hEach :
      ∀ processors e after,
        Estimator.Change processors e after →
          ofEstimator e → ofEstimator after)
    {c after : Context α}
    (hChange : c.Change after)
    (hBefore : ofEstimator c.estimator) :
    ofEstimator after.estimator := by
  cases hChange with
  | estimator hChange => exact hEach _ _ _ hChange hBefore
  | record computation => exact hBefore
  | draw chance => exact hBefore

end NeighbourInfo

------------------------------------------------------------
-- Changing The Estimator
------------------------------------------------------------

namespace NeighbourInfo

namespace Context

variable {α β : Type} {inv : Context α → Prop}

/- The estimator is changed, or left alone by a failure. -/
theorem keeps_updateEstimator
    {f : Estimator α → Except (Error α) (Estimator α)}
    (hOk :
      ∀ c e, f c.estimator = .ok e → inv c →
        inv { c with estimator := e }) :
    Transition.Keeps inv (updateEstimator f) := by
  intro c hInv
  cases hRun : f c.estimator with
  | error e =>
      rw [updateEstimator_of_error hRun]
      exact hInv
  | ok e =>
      rw [updateEstimator_of_ok hRun]
      exact hOk c e hRun hInv

theorem keeps_estimator? :
    Transition.Keeps inv (estimator? : Transition _ α _) :=
  fun _ hInv => hInv

theorem keeps_method
    (missing : Error α) :
    Transition.Keeps inv (method missing) := by
  intro c hInv
  cases hMethod : c.estimator.method with
  | none =>
      rw [method_of_none hMethod]
      exact hInv
  | some m =>
      rw [method_of_some hMethod]
      exact hInv

end Context

end NeighbourInfo

------------------------------------------------------------
-- Operations
------------------------------------------------------------

namespace NeighbourInfo

namespace Context

variable {α : Type} [Scalar α] [Literal α]
variable {inv : Context α → Prop}
variable
  (hChange : ∀ c after : Context α,
    c.Change after → inv c → inv after)

include hChange

theorem keeps_plainAverage :
    Transition.Keeps inv plainAverage := by
  intro c hInv
  rw [plainAverage_eq]
  rcases hRun : c.estimator.averaging with
    ⟨notes, e | ⟨computation, value⟩⟩
  · exact hInv
  · have hOk :
        c.estimator.averaging.result =
          .ok (computation, value) := by
      rw [hRun]
    have hRecorded := hChange _ _ (.record computation) hInv
    exact hChange _ _ (.estimator (.average hOk)) hRecorded

theorem keeps_average
    (chosen : Value α)
    (ordering : Value α) :
    Transition.Keeps inv (average chosen ordering) := by
  unfold average
  split
  · exact keeps_plainAverage hChange
  · intro c hInv
    rcases reorderedAverage_cases chosen ordering c with
      ⟨notes, e, hRun⟩ | ⟨notes, computation, value, hRun⟩
    · rw [hRun]
      exact hInv
    · rw [hRun]
      exact hChange _ _ (.record computation) hInv

theorem keeps_locals :
    Transition.Keeps inv locals := by
  intro c hInv
  rw [locals_eq]
  rcases hRun : c.estimator.localising with
    ⟨notes, e | ⟨computation, values⟩⟩
  · exact hInv
  · have hOk :
        c.estimator.localising.result =
          .ok (computation, values) := by
      rw [hRun]
    have hRecorded := hChange _ _ (.record computation) hInv
    exact hChange _ _ (.estimator (.locals hOk)) hRecorded

theorem keeps_chooseOrderings
    (rows : Nat)
    (count : Value α)
    (orderings : Value α) :
    Transition.Keeps inv
      (chooseOrderings rows count orderings) := by
  unfold chooseOrderings
  split
  · refine Transition.Keeps.bind
      (Transition.keeps_report _) fun count => ?_
    refine Transition.Keeps.bind ?_ fun drawn =>
      Transition.keeps_pure _
    intro c hInv
    unfold onShared Shared.drawPermutations
    rcases hDraw :
        c.shared.chance.permutations? (α := α) rows count with
      e | ⟨drawn, chance⟩
    · rw [Transition.change_error
        (by simp only [hDraw]; rfl)]
      exact hInv
    · rw [Transition.change_ok (by simp only [hDraw]; rfl)]
      exact hChange _ _ (.draw chance) hInv
  · exact Transition.keeps_pure _

theorem keeps_significance
    (chosen : Value α)
    (count : Value α)
    (orderings : Value α) :
    Transition.Keeps inv
      (significance chosen count orderings) := by
  rw [significance_eq]
  unfold chosenOrderings surrogates
  refine Transition.Keeps.bind ?_ fun orderings => ?_
  · refine keeps_estimator?.bind fun e => ?_
    refine (Transition.keeps_report _).bind fun data => ?_
    refine (Transition.keeps_report _).bind fun v => ?_
    exact keeps_chooseOrderings hChange _ _ _
  · refine (keeps_plainAverage hChange).bind fun actual => ?_
    split
    · refine Transition.Keeps.bind ?_ fun values =>
        Transition.keeps_pure _
      exact Transition.Keeps.mapM (keeps_average hChange _) _
    · exact Transition.keeps_report _

/-
  The chunks are closed, then the observations are installed,
  then noise is added.  Wherever this ends, what has become of
  the estimator is one change or two.
-/
theorem keeps_finalise :
    Transition.Keeps inv finalise := by
  intro c hInv
  rw [finalise_eq]
  rcases hClose : c.estimator.close with e | ⟨chunks, closed⟩
  · exact hInv
  · dsimp only
    cases hInstall : closed.install chunks with
    | error e =>
        exact hChange _ _ (.estimator (.close hClose)) hInv
    | ok installed =>
        dsimp only
        have hInstalled :=
          hChange _ _
            (.estimator (.install hClose hInstall)) hInv
        have hFresh : installed.lastAverage = none := by
          rw [(Estimator.eq_hold_of_install hInstall).2]
          rfl
        rcases hNoise : installed.addNoise c.shared.chance with
          e | ⟨noisy, chance⟩
        · exact hInstalled
        · have hNoisy :=
            hChange _ _
              (.estimator (.addNoise hFresh hNoise)) hInstalled
          exact hChange _ _ (.draw chance) hNoisy

theorem keeps_setObservations
    (x : Value α)
    (y : Value α)
    (z : Value α) :
    Transition.Keeps inv (setObservations x y z) := by
  unfold setObservations
  refine (keeps_updateEstimator ?_).bind fun _ => ?_
  · intro c e hOk
    exact hChange _ _ (.estimator (.start hOk))
  · refine (keeps_updateEstimator ?_).bind fun _ => ?_
    · intro c e hOk
      exact hChange _ _ (.estimator (.add hOk))
    · exact keeps_finalise hChange

end Context

end NeighbourInfo

------------------------------------------------------------
-- Commands
------------------------------------------------------------

namespace NeighbourInfo

namespace Command

variable {α : Type} [Scalar α] [Literal α]

/-
  What every change keeps true is kept by every command.  The
  command to initialise is looked at on its own.
-/
theorem keeps_run
    {inv : Context α → Prop}
    (hChange : ∀ c after : Context α,
      c.Change after → inv c → inv after)
    (command : Command α)
    (hInitialise :
      ∀ dims, command = .initialise dims →
        ∀ c e, Estimator.initialise dims c.estimator = .ok e →
          inv c → inv { c with estimator := e }) :
    Transition.Keeps inv command.run := by
  unfold run
  cases command with
  | initialise dims =>
      exact
        (Context.keeps_updateEstimator
          (hInitialise dims rfl)).bind fun _ =>
            Transition.keeps_pure _
  | set name v =>
      intro c hInv
      have hCurrent :
          (Transition.current : Transition (Context α) α _) c =
            (⟨[], .ok c⟩, c) := rfl
      dsimp only
      rw [Transition.bind_of_read hCurrent]
      cases hSet :
          c.estimator.set c.shared.processors name v with
      | error e =>
          rw [Transition.bind_error
            (Context.updateEstimator_of_error hSet)]
          exact hInv
      | ok e =>
          rw [Transition.bind_ok
            (Context.updateEstimator_of_ok hSet)]
          exact hChange _ _ (.estimator (.set hSet)) hInv
  | get name =>
      refine Context.keeps_estimator?.bind fun e => ?_
      exact (Transition.keeps_report _).bind fun value =>
        Transition.keeps_pure _
  | setDebug v =>
      refine (Context.keeps_updateEstimator ?_).bind fun _ =>
        Transition.keeps_pure _
      intro c e hOk
      cases hOk
      exact hChange _ _ (.estimator (.setDebug _))
  | setObservations x y z =>
      exact
        (Context.keeps_setObservations hChange x y z).bind
          fun _ => Transition.keeps_pure _
  | start =>
      refine (Context.keeps_updateEstimator ?_).bind fun _ =>
        Transition.keeps_pure _
      intro c e hOk
      exact hChange _ _ (.estimator (.start hOk))
  | add x y z mask =>
      refine (Context.keeps_updateEstimator ?_).bind fun _ =>
        Transition.keeps_pure _
      intro c e hOk
      exact hChange _ _ (.estimator (.add hOk))
  | finalise =>
      exact (Context.keeps_finalise hChange).bind fun _ =>
        Transition.keeps_pure _
  | average chosen ordering =>
      exact
        (Context.keeps_average hChange chosen ordering).bind
          fun _ => Transition.keeps_pure _
  | locals =>
      exact (Context.keeps_locals hChange).bind fun _ =>
        Transition.keeps_pure _
  | localsOf x y z =>
      refine Transition.Keeps.bind ?_ fun _ =>
        Transition.keeps_pure _
      exact (Context.keeps_method _).bind fun _ =>
        Transition.keeps_report _
  | significance chosen count orderings =>
      exact
        (Context.keeps_significance hChange _ _ _).bind
          fun _ => Transition.keeps_pure _
  | size =>
      exact Context.keeps_estimator?.bind fun _ =>
        Transition.keeps_pure _
  | lastAverage =>
      exact Context.keeps_estimator?.bind fun _ =>
        Transition.keeps_pure _
  | observations =>
      exact Context.keeps_estimator?.bind fun _ =>
        Transition.keeps_pure _

end Command

end NeighbourInfo
