import NeighbourInfo.Proofs.Session.Completing

/-
  What commands mean to the last average of an estimator.

  Key definitions include:
    * `NeighbourInfo.Event`
    * `NeighbourInfo.Event.latest`
    * `NeighbourInfo.Command.answered`
    * `NeighbourInfo.Command.unanswered`
    * `NeighbourInfo.Command.event`

  Of all that can be asked for, few things concern the last
  average: the observations are replaced, or something is
  computed from them as they are.  Which of these happened is
  told by the answer; only where an error is answered to one
  of three commands does it take a look at the estimator.

  This is proven by:
    * `NeighbourInfo.Event.latest_concat`
    * `NeighbourInfo.Context.lastAverage_finalise`
    * `NeighbourInfo.Context.lastAverage_significance`
    * `NeighbourInfo.Command.lastAverage_run`
-/

------------------------------------------------------------
-- Events
------------------------------------------------------------

namespace NeighbourInfo

/-
  What an operation means to the last average: that it is
  gone with the observations, that there is a new one, or
  nothing.
-/
inductive Event (α : Type) where
  | replaced
  | computed (value : α)
  | unrelated
deriving DecidableEq, Repr, Inhabited

namespace Event

variable {α ε : Type}

/- A computation gave a value, or it gave none. -/
def ofResult :
    Except ε α → Event α
  | .ok value => .computed value
  | .error _ => .unrelated

/- The observations have been replaced. -/
def isReplaced :
    Event α → Bool
  | .replaced => true
  | _ => false

/- The value that was computed. -/
def value? :
    Event α → Option α
  | .computed value => some value
  | _ => none

/-
  Of several events the latest value that was computed, going
  back no further than to where observations were replaced.
-/
def latest
    (events : List (Event α)) :
    Option α :=
  let since :=
    events.reverse.takeWhile fun event => !event.isReplaced
  since.findSome? value?

/- The last average after an event. -/
def next :
    Event α → Option α → Option α
  | .replaced, _ => none
  | .computed value, _ => some value
  | .unrelated, last => last

/- One more event makes the latest value the next one. -/
theorem latest_concat
    (events : List (Event α))
    (event : Event α) :
    latest (events ++ [event]) = event.next (latest events) := by
  unfold latest
  rw [List.reverse_append, List.reverse_singleton,
    List.singleton_append, List.takeWhile_cons]
  cases event with
  | replaced => rfl
  | computed value => rfl
  | unrelated => rfl

/- Events that come one after the other give the latest. -/
theorem foldl_next
    (events : List (Event α)) :
    events.foldl (fun last event => event.next last) none =
      latest events := by
  induction events using List.reverseRecOn with
  | nil => rfl
  | append_singleton events event ih =>
      rw [List.foldl_concat, ih, latest_concat]

end Event

end NeighbourInfo

------------------------------------------------------------
-- Events Of Commands
------------------------------------------------------------

namespace NeighbourInfo

variable {α : Type} [Scalar α]

/-
  Completing replaces the observations if there are rows in
  the open chunks.
-/
def Estimator.completion
    (e : Estimator α) :
    Event α :=
  match e.pending with
  | some chunks =>
      if (Observations.concat chunks).size = 0 then .unrelated
      else .replaced
  | none => .unrelated

variable [Literal α]

/- What completing means when a chunk has been added before. -/
def Estimator.completionWith
    (x : Value α)
    (y : Value α)
    (z : Value α)
    (e : Estimator α) :
    Event α :=
  match e.startWith x y z with
  | .ok added => added.completion
  | .error _ => .unrelated

namespace Command

/-
  What an answer to a command means to the last average.  The
  average in a given order means nothing, and of a significance
  only the average counts that surrogates are compared with.
-/
def answered :
    Command α → Answer α → Event α
  | .initialise _, _ => .replaced
  | .setObservations _ _ _, _ => .replaced
  | .finalise, _ => .replaced
  | .average _ ordering, .scalar value =>
      match ordering with
      | .null => .computed value
      | _ => .unrelated
  | .locals, .scalars values =>
      .computed (Scalar.mean values)
  | .significance _ _ _, .distribution d => .computed d.actual
  | _, _ => .unrelated

/-
  The average that a significance compares surrogates with, if
  it comes as far as that.
-/
def actualAverage
    (chosen : Value α)
    (count : Value α)
    (orderings : Value α) :
    Transition (Context α) α α := do
  let _ ← Context.chosenOrderings chosen count orderings
  Context.plainAverage

/-
  What a command means that was answered with an error.  There
  may be new observations where noise could not be added to
  them, and an average where surrogates could not be computed.
-/
def unanswered
    (c : Context α) :
    Command α → Event α
  | .setObservations x y z =>
      c.estimator.completionWith x y z
  | .finalise => c.estimator.completion
  | .significance chosen count orderings =>
      .ofResult
        (actualAverage chosen count orderings c).1.result
  | _ => .unrelated

/- What a command means to the last average of an estimator. -/
def event
    (command : Command α)
    (c : Context α) :
    Event α :=
  match (command.run c).1.result with
  | .ok answer => command.answered answer
  | .error _ => command.unanswered c

/- Some commands mean nothing, whatever is answered. -/
theorem event_of_unrelated
    {command : Command α}
    (hAnswered :
      ∀ answer, command.answered answer = .unrelated)
    {c : Context α}
    (hUnanswered : command.unanswered c = .unrelated) :
    command.event c = .unrelated := by
  unfold event
  split
  · exact hAnswered _
  · exact hUnanswered

/- An average in some order is not the last one. -/
theorem event_average_of_ne
    (chosen : Value α)
    {ordering : Value α}
    (hGiven : ordering ≠ .null)
    (c : Context α) :
    (average chosen ordering).event c = .unrelated := by
  refine event_of_unrelated (fun answer => ?_) rfl
  cases answer with
  | scalar value =>
      dsimp only [answered]
      split
      · exact absurd rfl hGiven
      · rfl
  | _ => rfl

/- A command that only answers what an operation gave. -/
theorem event_of_map
    {β : Type}
    {command : Command α}
    {t : Transition (Context α) α β}
    {f : β → Answer α}
    (hRun : command.run = t >>= fun b => pure (f b))
    (c : Context α) :
    command.event c =
      match (t c).1.result with
      | .ok b => command.answered (f b)
      | .error _ => command.unanswered c := by
  unfold event
  rw [hRun, Transition.result_map]
  cases (t c).1.result with
  | error e => rfl
  | ok b => rfl

end Command

end NeighbourInfo

------------------------------------------------------------
-- What Operations Do
------------------------------------------------------------

namespace NeighbourInfo

namespace Context

variable {α τ : Type}

/- What every change of the estimator leaves is left. -/
theorem leaves_updateEstimator
    {view : Estimator α → τ}
    {f : Estimator α → Except (Error α) (Estimator α)}
    (hOk : ∀ e after, f e = .ok after → view after = view e) :
    Transition.Leaves (fun c => view c.estimator)
      (updateEstimator f) := by
  intro c
  cases hRun : f c.estimator with
  | error e => rw [updateEstimator_of_error hRun]
  | ok e =>
      rw [updateEstimator_of_ok hRun]
      exact hOk c.estimator e hRun

/- Rows replace the observations, and nothing else does. -/
theorem completion_cases
    (e : Estimator α) :
    (e.completion = .replaced ∧
      ∃ chunks, e.pending = some chunks ∧
        (Observations.concat chunks).size ≠ 0) ∨
    (e.completion = .unrelated ∧
      ∀ chunks, e.pending = some chunks →
        (Observations.concat chunks).size = 0) := by
  unfold Estimator.completion
  cases e.pending with
  | none => exact .inr ⟨rfl, nofun⟩
  | some chunks =>
      by_cases hNone : (Observations.concat chunks).size = 0
      · right
        refine ⟨if_pos hNone, fun others hOthers => ?_⟩
        cases hOthers
        exact hNone
      · exact .inl ⟨if_neg hNone, chunks, rfl, hNone⟩

variable [Scalar α]

/- An average that is computed becomes the last one. -/
theorem lastAverage_plainAverage
    (c : Context α) :
    (plainAverage c).2.estimator.lastAverage =
      (Event.ofResult (plainAverage c).1.result).next
        c.estimator.lastAverage := by
  rw [plainAverage_eq]
  rcases c.estimator.averaging with
    ⟨notes, e | ⟨computation, value⟩⟩
  · rfl
  · rfl

theorem lastAverage_locals
    (c : Context α) :
    (locals c).2.estimator.lastAverage =
      (Event.ofResult
          ((locals c).1.result.map Scalar.mean)).next
        c.estimator.lastAverage := by
  rw [locals_eq]
  rcases c.estimator.localising with
    ⟨notes, e | ⟨computation, values⟩⟩
  · rfl
  · rfl

/- Whether noise can be added does not matter here. -/
theorem lastAverage_finalise
    (c : Context α) :
    (finalise c).2.estimator.lastAverage =
      c.estimator.completion.next c.estimator.lastAverage := by
  rcases completion_cases c.estimator with
    ⟨hCompletion, chunks, hPending, hRows⟩ |
    ⟨hCompletion, hNone⟩
  · rw [hCompletion, (finalise_of_rows hPending hRows).2]
    rfl
  · rcases finalise_of_none hNone with ⟨-, pending, hAfter⟩
    rw [hCompletion, hAfter]
    rfl

/- Completing succeeds where there are rows to be completed. -/
theorem completion_of_finalise
    {c : Context α}
    (hOk : (finalise c).1.result = .ok ()) :
    c.estimator.completion = .replaced := by
  rcases completion_cases c.estimator with
    ⟨hCompletion, -⟩ | ⟨-, hNone⟩
  · exact hCompletion
  · rcases finalise_of_none hNone with ⟨⟨e, hError⟩, -⟩
    rw [hError] at hOk
    cases hOk

/- Unless it fails at the noise, it has replaced nothing. -/
theorem completion_of_error
    {c : Context α}
    {e : Error α}
    (hError : (finalise c).1.result = .error e)
    (hOther : e ≠ .negativeScale) :
    c.estimator.completion = .unrelated := by
  rcases completion_cases c.estimator with
    ⟨-, chunks, hPending, hRows⟩ | ⟨hCompletion, -⟩
  · rw [(finalise_of_rows hPending hRows).1] at hError
    rcases
        Observations.result_completed c.estimator.settings
          c.shared.chance chunks with
      hOk | hNegative
    · rw [hOk] at hError
      cases hError
    · rw [hNegative] at hError
      cases hError
      exact absurd rfl hOther
  · exact hCompletion

/- What is drawn for surrogates comes from what is shared. -/
theorem leaves_chosenOrderings
    (chosen : Value α)
    (count : Value α)
    (orderings : Value α) :
    Transition.Leaves Context.estimator
      (chosenOrderings chosen count orderings) := by
  unfold chosenOrderings chooseOrderings
  refine Transition.Leaves.bind (fun c => rfl) fun e => ?_
  refine (Transition.leaves_ofExcept _).bind fun data => ?_
  refine (Transition.leaves_ofExcept _).bind fun v => ?_
  split
  · refine (Transition.leaves_ofExcept _).bind fun n => ?_
    refine Transition.Leaves.bind (fun c => rfl) fun drawn => ?_
    exact Transition.leaves_pure _
  · exact Transition.leaves_pure _

variable [Literal α]

/- It is the same where a chunk has been added before. -/
theorem lastAverage_setObservations
    (x : Value α)
    (y : Value α)
    (z : Value α)
    (c : Context α) :
    (setObservations x y z c).2.estimator.lastAverage =
      (c.estimator.completionWith x y z).next
        c.estimator.lastAverage := by
  unfold Estimator.completionWith
  cases hAdded : c.estimator.startWith x y z with
  | error e =>
      rcases setObservations_of_error hAdded with
        ⟨-, pending, hAfter⟩
      rw [hAfter]
      rfl
  | ok added =>
      rcases Estimator.eq_of_startWith hAdded with
        ⟨-, chunk, -, rfl⟩
      rw [setObservations_of_ok hAdded, lastAverage_finalise]

theorem completionWith_of_setObservations
    {x y z : Value α}
    {c : Context α}
    (hOk : (setObservations x y z c).1.result = .ok ()) :
    c.estimator.completionWith x y z = .replaced := by
  unfold Estimator.completionWith
  cases hAdded : c.estimator.startWith x y z with
  | error e =>
      rw [(setObservations_of_error hAdded).1] at hOk
      cases hOk
  | ok added =>
      rw [setObservations_of_ok hAdded] at hOk
      exact completion_of_finalise hOk

theorem completionWith_of_error
    {x y z : Value α}
    {c : Context α}
    {e : Error α}
    (hError : (setObservations x y z c).1.result = .error e)
    (hOther : e ≠ .negativeScale) :
    c.estimator.completionWith x y z = .unrelated := by
  unfold Estimator.completionWith
  cases hAdded : c.estimator.startWith x y z with
  | error e' => rfl
  | ok added =>
      rw [setObservations_of_ok hAdded] at hError
      exact completion_of_error hError hOther

/-
  Surrogates leave the average that they are compared with.
  One that comes without an order is that average once more.
-/
theorem keeps_surrogates
    (chosen : Value α)
    (orderings : Value α)
    (actual : α)
    {computation : Computation α}
    {value : α}
    {e : Estimator α}
    (hOk : e.averaging.result = .ok (computation, value)) :
    Transition.Keeps
      (fun c => c.estimator = e.keeping value)
      (surrogates chosen orderings actual) := by
  have hEach :
      ∀ ordering,
        Transition.Keeps
          (fun c => c.estimator = e.keeping value)
          (average chosen ordering) := by
    intro ordering c hEstimator
    unfold average
    split
    · have hAgain :
          c.estimator.averaging.result =
            .ok (computation, value) := by
        rw [hEstimator]
        exact hOk
      rw [plainAverage_eq]
      rcases hRun : c.estimator.averaging with
        ⟨notes, e' | ⟨computation', value'⟩⟩
      · exact hEstimator
      · rw [hRun] at hAgain
        cases hAgain
        change c.estimator.keeping value = _
        rw [hEstimator]
        rfl
    · exact
        (estimator_reorderedAverage chosen ordering c).trans
          hEstimator
  unfold surrogates
  split
  · exact
      (Transition.Keeps.mapM hEach _).bind fun values =>
        Transition.keeps_pure _
  · exact Transition.keeps_report _

/-
  A significance keeps the average that it compares surrogates
  with, whatever becomes of these.
-/
theorem lastAverage_significance
    (chosen : Value α)
    (count : Value α)
    (orderings : Value α)
    (c : Context α) :
    (significance chosen count orderings
        c).2.estimator.lastAverage =
      (Event.ofResult
          (Command.actualAverage chosen count orderings
            c).1.result).next
        c.estimator.lastAverage := by
  have hLeaves :=
    leaves_chosenOrderings chosen count orderings c
  rw [significance_eq]
  unfold Command.actualAverage
  rcases hChosen : chosenOrderings chosen count orderings c
    with ⟨⟨notes, e | given⟩, between⟩
  · rw [hChosen] at hLeaves
    rw [Transition.bind_error hChosen,
      Transition.bind_error hChosen]
    exact congrArg Estimator.lastAverage hLeaves
  · rw [hChosen] at hLeaves
    dsimp only at hLeaves
    rw [Transition.bind_ok hChosen, Transition.bind_ok hChosen]
    dsimp only
    have hPlain := plainAverage_eq between
    rcases hRun : between.estimator.averaging with
      ⟨more, e | ⟨computation, value⟩⟩
    · rw [hRun] at hPlain
      rw [Transition.bind_error hPlain, hPlain]
      exact congrArg Estimator.lastAverage hLeaves
    · rw [hRun] at hPlain
      rw [Transition.bind_ok hPlain, hPlain]
      have hOk :
          between.estimator.averaging.result =
            .ok (computation, value) := by
        rw [hRun]
      have hKept :
          (surrogates chosen given value
              { between.recorded computation with
                estimator :=
                  between.estimator.keeping
                    value }).2.estimator =
            between.estimator.keeping value :=
        keeps_surrogates chosen given value hOk _ rfl
      exact congrArg Estimator.lastAverage hKept

/- What is answered as the actual value is that average. -/
theorem actualAverage_of_significance
    {chosen count orderings : Value α}
    {c : Context α}
    {d : Distribution α}
    (hOk :
      (significance chosen count orderings c).1.result =
        .ok d) :
    (Command.actualAverage chosen count orderings
        c).1.result =
      .ok d.actual := by
  rw [significance_eq] at hOk
  unfold Command.actualAverage
  rcases Transition.exists_of_bind_ok hOk with
    ⟨notes, given, between, hChosen, hOk⟩
  rcases Transition.exists_of_bind_ok hOk with
    ⟨more, actual, after, hActual, hOk⟩
  rw [Transition.bind_ok hChosen, hActual]
  unfold surrogates at hOk
  cases hItems : given.items? with
  | none =>
      rw [hItems] at hOk
      cases hOk
  | some items =>
      rw [hItems] at hOk
      rcases Transition.exists_of_bind_ok hOk with
        ⟨_, values, _, -, hOk⟩
      cases hOk
      rfl

end Context

end NeighbourInfo

------------------------------------------------------------
-- Commands
------------------------------------------------------------

namespace NeighbourInfo

namespace Command

variable {α : Type} [Scalar α] [Literal α]
variable {command : Command α} {c : Context α}

theorem lastAverage_of_unrelated
    (hEvent : command.event c = .unrelated)
    (hSame :
      (command.run c).2.estimator.lastAverage =
        c.estimator.lastAverage) :
    (command.run c).2.estimator.lastAverage =
      (command.event c).next c.estimator.lastAverage := by
  rw [hEvent]
  exact hSame

theorem lastAverage_of_map
    {β : Type}
    {t : Transition (Context α) α β}
    {f : β → Answer α}
    (hRun : command.run = t >>= fun b => pure (f b))
    (hNext :
      (t c).2.estimator.lastAverage =
        (match (t c).1.result with
          | .ok b => command.answered (f b)
          | .error _ => command.unanswered c).next
          c.estimator.lastAverage) :
    (command.run c).2.estimator.lastAverage =
      (command.event c).next c.estimator.lastAverage := by
  rw [event_of_map hRun, hRun, Transition.state_map]
  exact hNext

/- Settings and chunks do not concern the last average. -/
theorem lastAverage_of_update
    {f : Estimator α → Except (Error α) (Estimator α)}
    (hRun :
      command.run = do
        Context.updateEstimator f
        return .done)
    (hEvent : command.event c = .unrelated)
    (hOk :
      ∀ e after, f e = .ok after →
        after.lastAverage = e.lastAverage) :
    (command.run c).2.estimator.lastAverage =
      (command.event c).next c.estimator.lastAverage := by
  apply lastAverage_of_unrelated hEvent
  rw [hRun, Transition.state_map]
  exact Context.leaves_updateEstimator hOk c

/-
  The last average after a command is what the event makes of
  the one before it.
-/
theorem lastAverage_run
    (command : Command α)
    (c : Context α) :
    (command.run c).2.estimator.lastAverage =
      (command.event c).next c.estimator.lastAverage := by
  cases command with
  | initialise dims =>
      apply lastAverage_of_map (f := fun _ => .done) rfl
      cases hRun : Estimator.initialise dims c.estimator with
      | error e =>
          rw [Context.updateEstimator_of_error hRun]
          rfl
      | ok e =>
          rw [Context.updateEstimator_of_ok hRun]
          rcases Estimator.eq_of_initialise hRun with
            ⟨dimensions, rfl⟩
          rfl
  | set name v =>
      have hRun :
          (Command.run (.set name v) c).2 =
            (Context.updateEstimator
              (Estimator.set c.shared.processors name v) c).2 :=
        Transition.state_map _ _ c
      apply lastAverage_of_unrelated
        (event_of_unrelated (fun _ => rfl) rfl)
      rw [hRun]
      refine Context.leaves_updateEstimator ?_ c
      intro e after hOk
      rcases Estimator.eq_of_set hOk with
        rfl | ⟨property, settings, -, rfl⟩
      · rfl
      · rfl
  | get name =>
      have hSame : (Command.run (.get name) c).2 = c :=
        leaves_get name c
      apply lastAverage_of_unrelated
        (event_of_unrelated (fun _ => rfl) rfl)
      rw [hSame]
  | setDebug v =>
      apply lastAverage_of_update rfl
        (event_of_unrelated (fun _ => rfl) rfl)
      intro e after hOk
      cases hOk
      rfl
  | setObservations x y z =>
      apply lastAverage_of_map (f := fun _ => .done) rfl
      rw [Context.lastAverage_setObservations]
      cases hResult :
          (Context.setObservations x y z c).1.result with
      | error e => rfl
      | ok _ =>
          rw [Context.completionWith_of_setObservations hResult]
          rfl
  | start =>
      apply lastAverage_of_update rfl
        (event_of_unrelated (fun _ => rfl) rfl)
      intro e after hOk
      rcases Estimator.eq_of_start hOk with ⟨-, rfl⟩
      rfl
  | add x y z mask =>
      apply lastAverage_of_update rfl
        (event_of_unrelated (fun _ => rfl) rfl)
      intro e after hOk
      rcases Estimator.eq_of_add hOk with
        ⟨chunks, chunk, kept, -, -, -, rfl⟩
      rfl
  | finalise =>
      apply lastAverage_of_map (f := fun _ => .done) rfl
      rw [Context.lastAverage_finalise]
      cases hResult : (Context.finalise c).1.result with
      | error e => rfl
      | ok _ =>
          rw [Context.completion_of_finalise hResult]
          rfl
  | average chosen ordering =>
      by_cases hPlain : ordering = .null
      · subst hPlain
        apply lastAverage_of_map (f := .scalar) rfl
        refine (Context.lastAverage_plainAverage c).trans ?_
        dsimp only [Context.average]
        cases (Context.plainAverage c).1.result with
        | error e => rfl
        | ok value => rfl
      · apply lastAverage_of_unrelated
          (event_average_of_ne chosen hPlain c)
        have hFrame :=
          Context.estimator_reorderedAverage chosen ordering c
        have hRun :
            ((average chosen ordering).run c).2 =
              (Context.average chosen ordering c).2 :=
          Transition.state_map _ _ c
        rw [hRun, Context.average_of_ne chosen hPlain, hFrame]
  | locals =>
      apply lastAverage_of_map (f := .scalars) rfl
      rw [Context.lastAverage_locals]
      cases (Context.locals c).1.result with
      | error e => rfl
      | ok values => rfl
  | localsOf x y z =>
      have hSame : (Command.run (.localsOf x y z) c).2 = c :=
        leaves_localsOf x y z c
      apply lastAverage_of_unrelated
        (event_of_unrelated (fun _ => rfl) rfl)
      rw [hSame]
  | significance chosen count orderings =>
      apply lastAverage_of_map (f := .distribution) rfl
      rw [Context.lastAverage_significance]
      cases hResult :
          (Context.significance chosen count orderings
            c).1.result with
      | error e => rfl
      | ok d =>
          rw [Context.actualAverage_of_significance hResult]
          rfl
  | size => rfl
  | lastAverage => rfl
  | observations => rfl

end Command

end NeighbourInfo
