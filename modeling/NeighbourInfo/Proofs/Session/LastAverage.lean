import NeighbourInfo.Scalar.Double
import NeighbourInfo.Proofs.Session.Changes
import NeighbourInfo.Proofs.Session.Events
import NeighbourInfo.Proofs.Session.Runs

/-
  The last average, told from the history of a session.

  Key definitions include:
    * `NeighbourInfo.Command.IsHarmless`
    * `NeighbourInfo.Session.events`
    * `NeighbourInfo.Estimator.IsCurrent`

  The value that an estimator keeps is the latest one that was
  computed since its observations were replaced.  So it is the
  value of the observations that are there, and never that of
  a surrogate.

  This is proven by:
    * `NeighbourInfo.Command.lastAverage_of_isHarmless`
    * `NeighbourInfo.Session.lastAverage?_step`
    * `NeighbourInfo.Session.lastAverage?_run`
    * `NeighbourInfo.Estimator.IsCurrent.change`
    * `NeighbourInfo.Session.lastAverage_of_run`
-/

------------------------------------------------------------
-- Commands Without Effect
------------------------------------------------------------

namespace NeighbourInfo

namespace Command

variable {α : Type} [Scalar α] [Literal α]

/- The command is answered with an error. -/
def Fails
    (command : Command α)
    (c : Context α) :
    Prop :=
  ∃ e, (command.run c).1.result = .error e

/-
  The commands that leave the last average as it is: averages
  in some order, computations that fail, properties, lists of
  chunks that are opened or added to, and all that is only
  looked at.  Completing is so where it is refused before any
  noise is to be added, above all for lack of observations,
  and a significance where the average is that it begins with.
-/
def IsHarmless
    (command : Command α)
    (c : Context α) :
    Prop :=
  match command with
  | .average _ ordering => ordering ≠ .null ∨ command.Fails c
  | .locals => command.Fails c
  | .significance chosen count orderings =>
      ∃ e,
        (actualAverage chosen count orderings c).1.result =
          .error e
  | .finalise | .setObservations _ _ _ =>
      ∃ e,
        (command.run c).1.result = .error e ∧
          e ≠ .negativeScale
  | .initialise _ => False
  | _ => True

variable {command : Command α} {c : Context α}

private theorem event_of_fails
    (hFails : command.Fails c) :
    command.event c = command.unanswered c := by
  rcases hFails with ⟨e, hError⟩
  unfold event
  rw [hError]

theorem event_of_isHarmless
    (hHarmless : command.IsHarmless c) :
    command.event c = .unrelated := by
  cases command with
  | initialise dims => exact hHarmless.elim
  | setObservations x y z =>
      rcases hHarmless with ⟨e, hError, hOther⟩
      have hRefused :
          (Context.setObservations x y z c).1.result =
            .error e :=
        Transition.error_of_map hError
      rw [event_of_fails ⟨e, hError⟩]
      exact Context.completionWith_of_error hRefused hOther
  | finalise =>
      rcases hHarmless with ⟨e, hError, hOther⟩
      have hRefused : (Context.finalise c).1.result = .error e :=
        Transition.error_of_map hError
      rw [event_of_fails ⟨e, hError⟩]
      exact Context.completion_of_error hRefused hOther
  | average chosen ordering =>
      rcases hHarmless with hGiven | hFails
      · exact event_average_of_ne chosen hGiven c
      · rw [event_of_fails hFails]
        rfl
  | locals =>
      rw [event_of_fails hHarmless]
      rfl
  | significance chosen count orderings =>
      rcases hHarmless with ⟨e, hActual⟩
      rw [event_of_map (f := .distribution) rfl]
      split
      · next d hOk =>
          rw [Context.actualAverage_of_significance hOk]
            at hActual
          cases hActual
      · change
          Event.ofResult
              (actualAverage chosen count orderings
                c).1.result =
            .unrelated
        rw [hActual]
        rfl
  | _ => exact event_of_unrelated (fun _ => rfl) rfl

/- What is harmless changes nothing of the last average. -/
theorem lastAverage_of_isHarmless
    (hHarmless : command.IsHarmless c) :
    (command.run c).2.estimator.lastAverage =
      c.estimator.lastAverage := by
  rw [lastAverage_run, event_of_isHarmless hHarmless]
  rfl

end Command

end NeighbourInfo

------------------------------------------------------------
-- Sessions
------------------------------------------------------------

namespace NeighbourInfo

namespace Session

variable {α : Type} [Scalar α] [Literal α]

/- What a request means to the estimator of a name. -/
def event
    (id : String)
    (s : Session α) :
    Request α → Event α
  | .create other _ =>
      if id = other then .replaced else .unrelated
  | .command other command =>
      match s.estimator? other with
      | some e =>
          if id = other then command.event ⟨e, s.shared⟩
          else .unrelated
      | none => .unrelated
  | _ => .unrelated

/- What the requests of a run mean, one after the other. -/
def events
    (id : String)
    (s : Session α) :
    List (Request α) → List (Event α)
  | [] => []
  | request :: requests =>
      s.event id request ::
        (step request s).2.events id requests

/- The last average of the estimator of a name. -/
def lastAverage?
    (s : Session α)
    (id : String) :
    Option α :=
  (s.estimator? id).bind Estimator.lastAverage

/- One request has the last average go on to the next one. -/
theorem lastAverage?_step
    (id : String)
    (request : Request α)
    (s : Session α) :
    (step request s).2.lastAverage? id =
      (s.event id request).next (s.lastAverage? id) := by
  unfold lastAverage?
  rw [estimator?_step]
  unfold event
  cases request with
  | create other method =>
      dsimp only
      by_cases hSame : id = other
      · rw [if_pos hSame, if_pos hSame]
        rfl
      · rw [if_neg hSame, if_neg hSame]
        rfl
  | command other command =>
      dsimp only
      by_cases hSame : id = other
      · subst hSame
        rw [if_pos rfl]
        cases s.estimator? id with
        | none => rfl
        | some e =>
            dsimp only
            rw [if_pos rfl]
            exact command.lastAverage_run ⟨e, s.shared⟩
      · rw [if_neg hSame]
        cases s.estimator? other with
        | none => rfl
        | some e =>
            dsimp only
            rw [if_neg hSame]
            rfl
  | chooseThreads choice processors => rfl
  | setDefaultK k => rfl
  | showSummary verbosity => rfl

/- So do the requests of a run. -/
theorem lastAverage?_run
    (id : String)
    (requests : List (Request α))
    (s : Session α) :
    (s.run requests).2.lastAverage? id =
      (s.events id requests).foldl
        (fun last event => event.next last)
        (s.lastAverage? id) := by
  induction requests generalizing s with
  | nil => rfl
  | cons request requests ih =>
      rw [run_cons, ih, lastAverage?_step]
      rfl

end Session

end NeighbourInfo

------------------------------------------------------------
-- Values Of The Present Observations
------------------------------------------------------------

namespace NeighbourInfo

namespace Estimator

variable {α : Type} [Scalar α]

/-
  The last average is one that the method gives, with settings
  that may have changed since, for the present observations.
-/
def IsCurrent
    (e : Estimator α) :
    Prop :=
  ∀ value, e.lastAverage = some value →
    ∃ settings,
      let former := { e with settings := settings }
      (∃ computation,
        former.averaging.result = .ok (computation, value)) ∨
      ∃ computation values,
        former.localising.result = .ok (computation, values) ∧
          value = Scalar.mean values

variable {e after : Estimator α}

theorem isCurrent_of_none
    (hNone : e.lastAverage = none) :
    e.IsCurrent := by
  intro value hValue
  exact absurd (hNone.symm.trans hValue) (by simp)

/- Settings and open chunks do not belong to the value. -/
theorem IsCurrent.congr
    (hCurrent : e.IsCurrent)
    (hSame :
      after.method = e.method ∧
        after.observations = e.observations ∧
        after.lastAverage = e.lastAverage) :
    after.IsCurrent := by
  rcases hSame with ⟨hMethod, hData, hLast⟩
  intro value hValue
  rcases hCurrent value (hLast ▸ hValue) with
    ⟨settings, hFormer⟩
  refine ⟨settings, ?_⟩
  unfold averaging localising evaluation at hFormer ⊢
  dsimp only at hFormer ⊢
  rw [hMethod, hData]
  exact hFormer

variable [Literal α]

/- Every change leaves a value of the present observations. -/
theorem IsCurrent.change
    (hCurrent : e.IsCurrent)
    {processors : Nat}
    (hChange : e.Change processors after) :
    after.IsCurrent := by
  cases hChange with
  | set hOk =>
      rcases eq_of_set hOk with
        rfl | ⟨property, settings, -, rfl⟩
      · exact hCurrent
      · exact hCurrent.congr ⟨rfl, rfl, rfl⟩
  | setDebug debug => exact hCurrent.congr ⟨rfl, rfl, rfl⟩
  | start hOk =>
      rcases eq_of_start hOk with ⟨-, rfl⟩
      exact hCurrent.congr ⟨rfl, rfl, rfl⟩
  | add hOk =>
      rcases eq_of_add hOk with
        ⟨chunks, chunk, kept, -, -, -, rfl⟩
      exact hCurrent.congr ⟨rfl, rfl, rfl⟩
  | close hOk =>
      rcases eq_of_close hOk with ⟨-, rfl⟩
      exact hCurrent.congr ⟨rfl, rfl, rfl⟩
  | install hClose hOk =>
      rcases eq_hold_of_install hOk with ⟨-, rfl⟩
      exact isCurrent_of_none rfl
  | addNoise hFresh hOk =>
      rcases eq_of_addNoise hOk with
        rfl | ⟨level, data, -, rfl⟩
      · exact hCurrent
      · exact isCurrent_of_none hFresh
  | average hOk =>
      rename_i computation value
      intro kept hKept
      cases hKept
      exact ⟨e.settings, .inl ⟨computation, hOk⟩⟩
  | locals hOk =>
      rename_i computation values
      intro kept hKept
      cases hKept
      exact ⟨e.settings, .inr ⟨computation, values, hOk, rfl⟩⟩

end Estimator

namespace Session

variable {α : Type} [Scalar α] [Literal α]

theorem keeps_current
    (request : Request α) :
    Transition.Keeps
      (Holds (fun _ => True) Estimator.IsCurrent)
      (step request) := by
  refine keeps_step ?_ ?_ request ?_ ?_
  · intro method shared _
    exact Estimator.isCurrent_of_none rfl
  · exact fun _ _ _ _ _ _ => trivial
  · exact fun _ _ _ _ => trivial
  · intro id command _
    refine command.keeps_run ?_ ?_
    · intro c after hChange hCurrent
      refine ⟨trivial, hChange.keeps_estimator ?_ hCurrent.2⟩
      exact fun _ _ _ hChange hBefore => hBefore.change hChange
    · intro dims _ c e hOk _
      rcases Estimator.eq_of_initialise hOk with
        ⟨dimensions, rfl⟩
      exact ⟨trivial, Estimator.isCurrent_of_none rfl⟩

end Session

end NeighbourInfo

------------------------------------------------------------
-- The Last Average Of A Session
------------------------------------------------------------

namespace NeighbourInfo

namespace Session

variable {α : Type} [Scalar α] [Literal α]

/-
  At any point of a session an estimator shows the latest value
  that was computed since its observations were replaced, which
  is one of the observations that it holds; it shows no number,
  and that nothing is computed, as long as there is no such
  value.  What is harmless changes nothing of this.
-/
theorem lastAverage_of_run :
    (∀ (shared : Shared α) (requests : List (Request α))
        (id : String) (e : Estimator α),
      let start := initial shared
      (start.run requests).2.estimator? id = some e →
        e.IsCurrent ∧
        match Event.latest (start.events id requests) with
        | some value =>
            e.isComputed = true ∧ e.shownAverage = value
        | none =>
            e.isComputed = false ∧
              e.shownAverage = Scalar.nan) ∧
    ∀ (c : Context α) (command : Command α),
      command.IsHarmless c →
        let after := (command.run c).2.estimator
        after.shownAverage = c.estimator.shownAverage ∧
          after.isComputed = c.estimator.isComputed := by
  constructor
  · intro shared requests id e start hFound
    have hCurrent :
        (start.run requests).2.Holds (fun _ => True)
          Estimator.IsCurrent :=
      keeps_run (fun request _ => keeps_current request)
        (holds_initial Estimator.IsCurrent trivial)
    have hLatest :
        e.lastAverage =
          Event.latest (start.events id requests) := by
      have hRun := lastAverage?_run id requests start
      rw [lastAverage?, hFound, Option.bind_some] at hRun
      rw [hRun, ← Event.foldl_next]
      rfl
    refine ⟨hCurrent.2 id e hFound, ?_⟩
    rw [← hLatest]
    unfold Estimator.isComputed Estimator.shownAverage
    cases e.lastAverage with
    | none => exact ⟨rfl, rfl⟩
    | some value => exact ⟨rfl, rfl⟩
  · intro c command hHarmless after
    have hSame := command.lastAverage_of_isHarmless hHarmless
    unfold Estimator.shownAverage Estimator.isComputed
    rw [hSame]
    exact ⟨rfl, rfl⟩

/- An average that is computed stays when chunks are opened. -/
theorem lastAverage_of_run_doubles :
    let column (entries : List Float) : Value Float :=
      .list (entries.map .real)
    let requests : List (Request Float) :=
      [.create "first" (some (.counting .first)),
        .command "first" (.initialise (.list [])),
        .command "first" (.set (.text "k") (.whole 1)),
        .command "first"
          (.setObservations (column [0, 1, 3])
            (column [0, 2, 1]) (column [0, 0, 1])),
        .command "first" (.average (.whole 1) .null)]
    let start := initial (.initial none default)
    let s := (start.run requests).2
    ∃ e value,
      s.estimator? "first" = some e ∧
        Event.latest (start.events "first" requests) =
          some value ∧
        e.IsCurrent ∧ e.isComputed = true ∧
        e.shownAverage = value ∧
        Command.IsHarmless .start ⟨e, s.shared⟩ ∧
        (Command.run .start
            ⟨e, s.shared⟩).2.estimator.shownAverage =
          value := by
  intro column requests start s
  have hFound : ∃ e, s.estimator? "first" = some e := ⟨_, rfl⟩
  have hValue :
      (Event.latest (start.events "first" requests)).isSome =
        true := by
    decide +kernel
  rcases hFound with ⟨e, hFound⟩
  rcases Option.isSome_iff_exists.mp hValue with
    ⟨value, hValue⟩
  rcases lastAverage_of_run (α := Float) with
    ⟨hLatest, hHarmless⟩
  rcases hLatest _ requests "first" e hFound with
    ⟨hCurrent, hShown⟩
  rw [hValue] at hShown
  rcases hShown with ⟨hComputed, hShown⟩
  rcases hHarmless ⟨e, s.shared⟩ .start trivial with
    ⟨hSame, -⟩
  exact
    ⟨e, value, hFound, hValue, hCurrent, hComputed, hShown,
      trivial, hSame.trans hShown⟩

end Session

end NeighbourInfo
