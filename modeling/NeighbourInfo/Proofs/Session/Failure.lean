import NeighbourInfo.Scalar.Double
import NeighbourInfo.Proofs.Session.Operations
import NeighbourInfo.Proofs.Session.Runs

/-
  What is left of requests that fail.

  Key definitions include:
    * `NeighbourInfo.Command.IsWhole`
    * `NeighbourInfo.Request.IsWhole`

  Most operations change something at their end only, when
  nothing can fail any more, or not at all.  The operations
  that complete observations, and those on surrogates, change
  something on the way; they are left out here.

  This is proven by:
    * `NeighbourInfo.Context.isAtomic_average`
    * `NeighbourInfo.Context.isAtomic_locals`
    * `NeighbourInfo.Command.isAtomic_run`
    * `NeighbourInfo.Shared.isAtomic_chooseThreads`
    * `NeighbourInfo.Session.unchanged_of_error`
-/

------------------------------------------------------------
-- Computations
------------------------------------------------------------

namespace NeighbourInfo

namespace Context

variable {α : Type} [Scalar α]

theorem isAtomic_plainAverage :
    Transition.IsAtomic (plainAverage (α := α)) := by
  intro c e hError
  rw [plainAverage_eq] at hError ⊢
  rcases hRun : c.estimator.averaging with
    ⟨notes, e' | ⟨computation, value⟩⟩
  · rfl
  · rw [hRun] at hError
    cases hError

theorem isAtomic_locals :
    Transition.IsAtomic (locals (α := α)) := by
  intro c e hError
  rw [locals_eq] at hError ⊢
  rcases hRun : c.estimator.localising with
    ⟨notes, e' | ⟨computation, values⟩⟩
  · rfl
  · rw [hRun] at hError
    cases hError

variable [Literal α]

/- In a new order nothing but the summary is changed at all. -/
theorem isAtomic_average
    (chosen : Value α)
    (ordering : Value α) :
    Transition.IsAtomic (average chosen ordering) := by
  by_cases hPlain : ordering = .null
  · subst hPlain
    exact isAtomic_plainAverage
  · rw [average_of_ne chosen hPlain]
    intro c e hError
    rcases reorderedAverage_cases chosen ordering c with
      ⟨notes, e', hRun⟩ | ⟨notes, computation, value, hRun⟩
    · rw [hRun]
    · rw [hRun] at hError
      cases hError

end Context

end NeighbourInfo

------------------------------------------------------------
-- Commands
------------------------------------------------------------

namespace NeighbourInfo

namespace Command

variable {α : Type} [Scalar α] [Literal α]

/- The command does not work on observations in stages. -/
def IsWhole :
    Command α → Prop
  | .setObservations _ _ _ => False
  | .finalise => False
  | .significance _ _ _ => False
  | _ => True

/- Whatever is changed is changed when nothing can fail. -/
theorem isAtomic_run
    {command : Command α}
    (hWhole : command.IsWhole) :
    Transition.IsAtomic command.run := by
  cases command with
  | initialise dims => exact isAtomic_initialise dims
  | set name v =>
      refine Transition.IsAtomic.bind_of_leaves
        (fun c => rfl) fun c => ?_
      exact
        (Context.isAtomic_updateEstimator _).map
          fun _ => Answer.done
  | get name => exact (leaves_get name).isAtomic
  | setDebug v =>
      exact
        (Context.isAtomic_updateEstimator _).map
          fun _ => Answer.done
  | setObservations x y z => exact hWhole.elim
  | start =>
      exact
        (Context.isAtomic_updateEstimator _).map
          fun _ => Answer.done
  | add x y z mask =>
      exact
        (Context.isAtomic_updateEstimator _).map
          fun _ => Answer.done
  | finalise => exact hWhole.elim
  | average chosen ordering =>
      exact
        (Context.isAtomic_average chosen ordering).map
          Answer.scalar
  | locals => exact Context.isAtomic_locals.map Answer.scalars
  | localsOf x y z => exact (leaves_localsOf x y z).isAtomic
  | significance chosen count orderings => exact hWhole.elim
  | size => exact fun c e _ => rfl
  | lastAverage => exact fun c e _ => rfl
  | observations => exact fun c e _ => rfl

end Command

end NeighbourInfo

------------------------------------------------------------
-- What Is Shared
------------------------------------------------------------

namespace NeighbourInfo

namespace Shared

variable {α : Type} [Scalar α]

/- A choice is refused before the default is changed. -/
theorem isAtomic_chooseThreads
    (choice : Value α)
    (processors : Value α) :
    Transition.IsAtomic (chooseThreads choice processors) := by
  unfold chooseThreads
  refine Transition.IsAtomic.bind_of_leaves
    (Transition.leaves_ofExcept _) fun chosen => ?_
  cases chosen with
  | some threads => exact Transition.isAtomic_change _
  | none => exact fun s e _ => rfl

theorem leaves_showSummary
    (verbosity : Value α) :
    Transition.Leaves id (showSummary verbosity) := by
  unfold showSummary
  refine (Transition.leaves_ofExcept _).bind fun isShown => ?_
  exact fun s => rfl

end Shared

end NeighbourInfo

------------------------------------------------------------
-- Requests
------------------------------------------------------------

namespace NeighbourInfo

variable {α : Type} [Scalar α] [Literal α]

/- A request is whole if it is not for a command in stages. -/
def Request.IsWhole
    (request : Request α) :
    Prop :=
  ∀ id command, request = .command id command →
    command.IsWhole

namespace Session

/-
  A request that fails leaves all as it was: what is shared,
  and the estimator that any name stands for.
-/
theorem unchanged_of_error
    (request : Request α)
    (hWhole : request.IsWhole)
    (s : Session α)
    (e : Error α)
    (hError : (step request s).1.result = .error e) :
    (step request s).2.shared = s.shared ∧
      ∀ id,
        (step request s).2.estimator? id =
          s.estimator? id := by
  cases request with
  | create id method => cases hError
  | command id command =>
      rw [step_command] at hError ⊢
      cases hFound : s.estimator? id with
      | none =>
          rw [onEstimator_of_none hFound]
          exact ⟨rfl, fun _ => rfl⟩
      | some former =>
          rw [onEstimator_of_some hFound] at hError ⊢
          have hSame :
              (command.run ⟨former, s.shared⟩).2 =
                ⟨former, s.shared⟩ :=
            Command.isAtomic_run (hWhole id command rfl) _ e
              hError
          rw [hSame]
          refine ⟨rfl, fun other => ?_⟩
          by_cases hOther : other = id
          · rw [hOther, estimator?_withEstimator, hFound]
          · exact estimator?_withEstimator_of_ne s hOther former
  | chooseThreads choice processors =>
      have hAtomic :
          Transition.IsAtomic
            (step (.chooseThreads choice processors)) :=
        (isAtomic_onShared
          (Shared.isAtomic_chooseThreads choice
            processors)).bind_of_succeeds
          fun _ s => ⟨_, rfl⟩
      rw [hAtomic s e hError]
      exact ⟨rfl, fun _ => rfl⟩
  | setDefaultK k => cases hError
  | showSummary verbosity =>
      have hAtomic :
          Transition.IsAtomic (step (.showSummary verbosity)) :=
        (isAtomic_onShared
          (Shared.leaves_showSummary verbosity).isAtomic).map
          Answer.summary
      rw [hAtomic s e hError]
      exact ⟨rfl, fun _ => rfl⟩

/- Three points do not have three neighbours each. -/
theorem unchanged_of_error_doubles :
    let column (entries : List Float) : Value Float :=
      .list (entries.map .real)
    let requests : List (Request Float) :=
      [.create "first" (some (.counting .first)),
        .command "first" (.initialise (.list [])),
        .command "first" (.set (.text "k") (.whole 3)),
        .command "first"
          (.setObservations (column [0, 1, 3])
            (column [0, 2, 1]) (column [0, 0, 1]))]
    let s := ((initial (.initial none default)).run requests).2
    let request : Request Float :=
      .command "first"
        (.average (.whole 1)
          (.list [.whole 2, .whole 0, .whole 1]))
    request.IsWhole ∧
      (step request s).1.result =
        .error (.tooFewNeighbours 0 2 (.whole 3)) ∧
      (step request s).2.shared = s.shared ∧
      (step request s).2.estimator? "first" =
        s.estimator? "first" := by
  intro column requests s request
  have hWhole : request.IsWhole := by
    intro id command hCommand
    rcases Request.command.inj hCommand with ⟨-, rfl⟩
    exact trivial
  have hError :
      (step request s).1.result =
        .error (.tooFewNeighbours 0 2 (.whole 3)) := rfl
  rcases unchanged_of_error request hWhole s _ hError with
    ⟨hShared, hEstimators⟩
  exact ⟨hWhole, hError, hShared, hEstimators "first"⟩

end Session

end NeighbourInfo
