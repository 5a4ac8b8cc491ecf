import NeighbourInfo.Pool
import NeighbourInfo.Proofs.Evaluation
import NeighbourInfo.Proofs.Session.Operations

/-
  What holds while several threads compute.

  Key definitions include:
    * `NeighbourInfo.Pool.settled`
    * `NeighbourInfo.Pool.Tracks`

  A worker sees nothing but its task, and a property that is
  set changes nothing but settings.  So the two commute, and
  where a computation stands is told by the events so far.

  This is proven by:
    * `NeighbourInfo.Context.state_set`
    * `NeighbourInfo.Pool.Job.collect_withSettings`
    * `NeighbourInfo.Pool.Tracks.step`
    * `NeighbourInfo.Pool.Tracks.run`
-/

------------------------------------------------------------
-- Setting Properties
------------------------------------------------------------

namespace NeighbourInfo

variable {α : Type} [Scalar α] [Literal α]

/- The settings with a named property set. -/
def Settings.setNamed
    (processors : Nat)
    (hasMethod : Bool)
    (name : Value α)
    (value : Value α)
    (s : Settings α) :
    Except (Error α) (Settings α) := do
  let named ← Property.ofValue name
  match
    named.filter fun property =>
      hasMethod || property.concernsData with
  | some property => s.set processors property value
  | none => return s

/- Of an estimator only the settings are set. -/
theorem Estimator.set_eq
    (processors : Nat)
    (name : Value α)
    (value : Value α)
    (e : Estimator α) :
    e.set processors name value =
      (e.settings.setNamed processors e.method.isSome name
          value).map
        fun settings => { e with settings := settings } := by
  unfold set property Settings.setNamed
  cases Property.ofValue name with
  | error refusal => rfl
  | ok named =>
      simp only [bind, Except.bind, pure, Except.pure]
      cases
          named.filter fun property =>
            e.method.isSome || property.concernsData with
      | none => rfl
      | some property =>
          cases e.settings.set processors property value with
          | error refusal => rfl
          | ok settings => rfl

namespace Context

/- The estimator has other settings. -/
def withSettings
    {α : Type}
    (settings : Settings α)
    (c : Context α) :
    Context α :=
  { c with
    estimator := { c.estimator with settings := settings } }

/- The settings after a property is set, or not accepted. -/
def settingsAfter
    (name : Value α)
    (value : Value α)
    (c : Context α) :
    Settings α :=
  match
    c.estimator.settings.setNamed c.shared.processors
      c.estimator.method.isSome name value with
  | .ok settings => settings
  | .error _ => c.estimator.settings

/- Setting a property changes the settings alone. -/
theorem state_set
    (name : Value α)
    (value : Value α)
    (c : Context α) :
    ((Command.set name value).run c).2 =
      c.withSettings (c.settingsAfter name value) := by
  have hSet :=
    c.estimator.set_eq c.shared.processors name value
  unfold settingsAfter Command.run
  dsimp only
  rw [Transition.bind_of_read (t := Transition.current) rfl,
    Transition.state_map]
  cases hNamed :
      c.estimator.settings.setNamed c.shared.processors
        c.estimator.method.isSome name value with
  | error e =>
      rw [hNamed] at hSet
      rw [updateEstimator_of_error hSet]
      rfl
  | ok settings =>
      rw [hNamed] at hSet
      rw [updateEstimator_of_ok hSet]
      rfl

end Context

end NeighbourInfo

namespace NeighbourInfo

namespace Pool

variable {α β γ : Type} [Scalar α] [Literal α]

/- The context after an event that sets a property. -/
def Event.settle
    (c : Context α) :
    Event α → Context α
  | .set name value => ((Command.set name value).run c).2
  | _ => c

/- The context after all properties that are set by events. -/
def settled
    (events : List (Event α))
    (c : Context α) :
    Context α :=
  events.foldl Event.settle c

theorem settled_concat
    (events : List (Event α))
    (event : Event α)
    (c : Context α) :
    settled (events ++ [event]) c =
      event.settle (settled events c) := by
  rw [settled, List.foldl_append]
  rfl

private theorem exists_settled_eq
    (events : List (Event α))
    (c : Context α) :
    ∃ settings, settled events c = c.withSettings settings := by
  induction events generalizing c with
  | nil => exact ⟨c.estimator.settings, rfl⟩
  | cons event events ih =>
      rcases ih (event.settle c) with ⟨settings, hRest⟩
      refine ⟨settings, hRest.trans ?_⟩
      cases event with
      | start number => rfl
      | finish number => rfl
      | set name value =>
          rw [Event.settle, Context.state_set]
          rfl
      | conclude => rfl

/- Nothing but the settings has been set. -/
theorem settled_eq
    (events : List (Event α))
    (c : Context α) :
    settled events c =
      c.withSettings (settled events c).estimator.settings := by
  rcases exists_settled_eq events c with ⟨settings, hSettled⟩
  rw [hSettled]
  rfl

end Pool

end NeighbourInfo

------------------------------------------------------------
-- Reading Outcomes
------------------------------------------------------------

namespace NeighbourInfo

namespace Pool

namespace Job

variable {α β γ : Type} {job : Job α β γ}
variable {config : Config α} {points : Nat}
variable {blocks : List Block}
variable {outcomes : List (Except (Error α) β)}

/- The first error is given, and nothing else is done. -/
theorem collect_of_error
    {e : Error α}
    (hOutcomes : outcomes.mapM id = .error e)
    (c : Context α) :
    job.collect config points blocks outcomes c =
      (⟨[], .error e⟩, c) := by
  unfold collect
  rw [hOutcomes, Transition.ofExcept_error_bind]

/- What blocks contributed is recorded, then concluded. -/
theorem collect_of_ok
    {parts : List β}
    (hOutcomes : outcomes.mapM id = .ok parts)
    (c : Context α) :
    job.collect config points blocks outcomes c =
      match job.conclude config points (blocks.zip parts) with
      | (computation, ⟨notes, .ok (value, answer)⟩) =>
          (⟨notes, .ok answer⟩,
            ⟨c.estimator.keeping value,
              (c.recorded computation).shared⟩)
      | (computation, ⟨notes, .error e⟩) =>
          (⟨notes, .error e⟩, c.recorded computation) := by
  unfold collect
  rw [hOutcomes, Transition.ofExcept_ok_bind]
  rcases hConclude :
      job.conclude config points (blocks.zip parts) with
    ⟨computation, ⟨notes, e | ⟨value, answer⟩⟩⟩
  · rfl
  · change
      ((⟨notes ++ [], .ok answer⟩ : Report α γ), _) = _
    rw [List.append_nil]
    rfl

/- The outcomes do not depend on the settings by then. -/
theorem collect_withSettings
    (settings : Settings α)
    (c : Context α) :
    let conclusion :=
      job.collect config points blocks outcomes c
    job.collect config points blocks outcomes
        (c.withSettings settings) =
      (conclusion.1, conclusion.2.withSettings settings) := by
  cases hOutcomes : outcomes.mapM id with
  | error e =>
      rw [collect_of_error hOutcomes,
        collect_of_error hOutcomes]
  | ok parts =>
      rw [collect_of_ok hOutcomes, collect_of_ok hOutcomes]
      rcases job.conclude config points (blocks.zip parts) with
        ⟨computation, ⟨notes, e | ⟨value, answer⟩⟩⟩
      · rfl
      · rfl

/- Nor do they change what a later setting depends on. -/
theorem settingsAfter_collect
    [Scalar α] [Literal α]
    (c : Context α)
    (settings : Settings α)
    (name : Value α)
    (value : Value α) :
    ((job.collect config points blocks outcomes
        c).2.withSettings settings).settingsAfter name value =
      (c.withSettings settings).settingsAfter name value := by
  cases hOutcomes : outcomes.mapM id with
  | error e => rw [collect_of_error hOutcomes]
  | ok parts =>
      rw [collect_of_ok hOutcomes]
      rcases job.conclude config points (blocks.zip parts) with
        ⟨computation, ⟨notes, e | ⟨value, answer⟩⟩⟩
      · rfl
      · rfl

end Job

end Pool

end NeighbourInfo

------------------------------------------------------------
-- Steps
------------------------------------------------------------

namespace NeighbourInfo

namespace Pool

variable {α β γ : Type}

/- A worker starts the block of the given number. -/
def Event.starts
    (number : Nat) :
    Event α → Bool
  | .start n => n == number
  | _ => false

/- A worker finishes the block of the given number. -/
def Event.finishes
    (number : Nat) :
    Event α → Bool
  | .finish n => n == number
  | _ => false

/-
  How far a worker has come after so many starts and finishes
  of its block.
-/
inductive Status.Agrees
    (outcome : Except (Error α) β) :
    Nat → Nat → Status α β → Prop where
  | waiting : Agrees outcome 0 0 .waiting
  | running : Agrees outcome 1 0 .running
  | finished : Agrees outcome 1 1 (.finished outcome)

namespace Status.Agrees

variable {outcome : Except (Error α) β} {starts finishes : Nat}

theorem eq_of_waiting
    (hAgrees : Agrees outcome starts finishes .waiting) :
    starts = 0 ∧ finishes = 0 := by
  cases hAgrees
  exact ⟨rfl, rfl⟩

theorem eq_of_running
    (hAgrees : Agrees outcome starts finishes .running) :
    starts = 1 ∧ finishes = 0 := by
  cases hAgrees
  exact ⟨rfl, rfl⟩

/- A finished block was run once and has its own outcome. -/
theorem eq_of_outcome?
    {status : Status α β}
    (hAgrees : Agrees outcome starts finishes status)
    {found : Except (Error α) β}
    (hFound : status.outcome? = some found) :
    starts = 1 ∧ finishes = 1 ∧ found = outcome := by
  cases hAgrees with
  | waiting => cases hFound
  | running => cases hFound
  | finished =>
      cases hFound
      exact ⟨rfl, rfl, rfl⟩

end Status.Agrees

/- The future of a task is where the events have taken it. -/
def Future.Agrees
    (job : Job α β γ)
    (events : List (Event α))
    (number : Nat)
    (future : Future α β) :
    Prop :=
  future.status.Agrees
    (job.contribute future.task.config future.task.data
      future.task.block)
    (events.countP (Event.starts number))
    (events.countP (Event.finishes number))

/- Events that concern other blocks leave it where it is. -/
theorem Future.Agrees.concat
    {job : Job α β γ}
    {events : List (Event α)}
    {number : Nat}
    {future : Future α β}
    (hAgrees : future.Agrees job events number)
    {event : Event α}
    (hStarts : event.starts number = false)
    (hFinishes : event.finishes number = false) :
    future.Agrees job (events ++ [event]) number := by
  unfold Future.Agrees
  rw [List.countP_append, List.countP_append,
    List.countP_singleton, List.countP_singleton, hStarts,
    hFinishes]
  exact hAgrees

variable [Scalar α] [Literal α]

/-
  What holds of a pool after any events.  The caller and every
  worker have what was captured at entry.  Each block is where
  its own events have taken it.  Until there is an answer, the
  context is changed by sets alone; the answer, and what comes
  of the context with it, is that of the outcomes of all the
  blocks in their order.
-/
structure Tracks
    (job : Job α β γ)
    (c : Context α)
    (config : Config α)
    (data : Observations α)
    (blocks : List Block)
    (events : List (Event α))
    (p : Pool α β γ) :
    Prop where
  config_eq : p.config = config
  data_eq : p.data = data
  tasks :
    p.futures.map Future.task = blocks.map (Task.mk config data)
  futures :
    ∀ (number : Nat) (future : Future α β),
      p.futures[number]? = some future →
        future.Agrees job events number
  unanswered : p.answer = none → p.context = settled events c
  answered :
    ∀ answer, p.answer = some answer →
      let outcomes := blocks.map (job.contribute config data)
      let conclusion :=
        job.collect config data.size blocks outcomes c
      p.outcomes? = some outcomes ∧
        answer = conclusion.1 ∧
        p.context =
          conclusion.2.withSettings
            (settled events c).estimator.settings

variable {job : Job α β γ} {c : Context α}
variable {config : Config α} {data : Observations α}
variable {blocks : List Block} {events : List (Event α)}
variable {p p' : Pool α β γ}

theorem tracks_fresh :
    Tracks job c config data blocks []
      (fresh c config data blocks) where
  config_eq := rfl
  data_eq := rfl
  tasks := by simp [fresh]
  futures := by
    intro number future hFuture
    simp only [fresh, List.getElem?_map,
      Option.map_eq_some_iff] at hFuture
    rcases hFuture with ⟨block, -, rfl⟩
    exact .waiting
  unanswered := fun _ => rfl
  answered := by
    intro answer hAnswer
    cases hAnswer

/- A worker starts a block that is waiting. -/
theorem step?_start_iff
    {number : Nat} :
    step? job p (.start number) = some p' ↔
      ∃ task,
        p.futures[number]? = some ⟨task, .waiting⟩ ∧
        p' =
          { p with
            futures :=
              p.futures.set number ⟨task, .running⟩ } := by
  constructor
  · intro hStep
    simp only [step?] at hStep
    split at hStep
    · next task hFuture =>
        cases hStep
        exact ⟨task, hFuture, rfl⟩
    · cases hStep
  · rintro ⟨task, hFuture, rfl⟩
    simp only [step?, hFuture]

/- A worker finishes a block that is running. -/
theorem step?_finish_iff
    {number : Nat} :
    step? job p (.finish number) = some p' ↔
      ∃ task,
        p.futures[number]? = some ⟨task, .running⟩ ∧
        p' =
          { p with
            futures :=
              p.futures.set number
                ⟨task,
                  .finished
                    (job.contribute task.config task.data
                      task.block)⟩ } := by
  constructor
  · intro hStep
    simp only [step?] at hStep
    split at hStep
    · next task hFuture =>
        cases hStep
        exact ⟨task, hFuture, rfl⟩
    · cases hStep
  · rintro ⟨task, hFuture, rfl⟩
    simp only [step?, hFuture]

/- The caller concludes once, when all blocks are finished. -/
theorem step?_conclude_iff :
    step? job p .conclude = some p' ↔
      p.answer = none ∧
        ∃ outcomes,
          p.outcomes? = some outcomes ∧
          let conclusion :=
            job.collect p.config p.data.size p.blocks outcomes
              p.context
          p' =
            { p with
              context := conclusion.2
              answer := some conclusion.1 } := by
  constructor
  · intro hStep
    simp only [step?] at hStep
    split at hStep
    · next outcomes hNone hOutcomes =>
        cases hStep
        exact ⟨hNone, outcomes, hOutcomes, rfl⟩
    · cases hStep
  · rintro ⟨hNone, outcomes, hOutcomes, rfl⟩
    simp only [step?, hNone, hOutcomes]

omit [Scalar α] [Literal α] in
/- A block without an outcome keeps the caller waiting. -/
theorem exists_outcome_of_outcomes?
    {outcomes : List (Except (Error α) β)}
    (hOutcomes : p.outcomes? = some outcomes)
    {future : Future α β}
    (hMem : future ∈ p.futures) :
    ∃ outcome, future.status.outcome? = some outcome := by
  have hFound :
      future.status.outcome? ∈ outcomes.map some := by
    rw [← map_eq_of_mapM_eq_some hOutcomes]
    exact List.mem_map_of_mem hMem
  rcases List.mem_map.mp hFound with ⟨outcome, -, hOutcome⟩
  exact ⟨outcome, hOutcome.symm⟩

/- After a first event the others happen. -/
theorem run?_cons
    {event : Event α}
    (hStep : step? job p event = some p')
    (more : List (Event α)) :
    run? job p (event :: more) = run? job p' more := by
  rw [run?, hStep]
  rfl

namespace Tracks

theorem blocks_eq
    (hTracks : Tracks job c config data blocks events p) :
    p.blocks = blocks := by
  have hBlocks := congrArg (List.map Task.block) hTracks.tasks
  rw [List.map_map, List.map_map] at hBlocks
  exact hBlocks.trans (List.map_id blocks)

/- Once all blocks are finished, all outcomes are theirs. -/
theorem outcomes_eq
    (hTracks : Tracks job c config data blocks events p)
    {outcomes : List (Except (Error α) β)}
    (hOutcomes : p.outcomes? = some outcomes) :
    outcomes = blocks.map (job.contribute config data) := by
  let contribution (task : Task α) : Except (Error α) β :=
    job.contribute task.config task.data task.block
  have hEach :
      ∀ future ∈ p.futures,
        future.status.outcome? =
          some (contribution future.task) := by
    intro future hMem
    rcases List.mem_iff_getElem?.mp hMem with
      ⟨number, hFuture⟩
    have hAgrees := hTracks.futures number future hFuture
    rcases exists_outcome_of_outcomes? hOutcomes hMem with
      ⟨outcome, hOutcome⟩
    rw [hOutcome, (hAgrees.eq_of_outcome? hOutcome).2.2]
  have hAll :
      outcomes = p.futures.map (contribution ·.task) := by
    apply (Option.some_injective _).list_map
    rw [← map_eq_of_mapM_eq_some hOutcomes, List.map_map]
    exact List.map_congr_left hEach
  have hTasks :=
    congrArg (List.map contribution) hTracks.tasks
  rw [List.map_map, List.map_map] at hTasks
  exact hAll.trans hTasks

/- What one worker does leaves the tasks as they are. -/
private theorem tasks_set
    (hTracks : Tracks job c config data blocks events p)
    {number : Nat}
    {task : Task α}
    {before : Status α β}
    (hFuture : p.futures[number]? = some ⟨task, before⟩)
    (after : Status α β) :
    (p.futures.set number ⟨task, after⟩).map Future.task =
      blocks.map (Task.mk config data) := by
  rw [← hTracks.tasks]
  apply List.ext_getElem?
  intro i
  rw [List.getElem?_map, List.getElem?_map]
  by_cases hSame : number = i
  · have hBound : number < p.futures.length :=
      (List.getElem?_eq_some_iff.mp hFuture).1
    rw [← hSame, List.getElem?_set_self hBound, hFuture]
    rfl
  · rw [List.getElem?_set_ne hSame]

/- While a block is not finished there is no answer. -/
private theorem answer_eq_none
    (hTracks : Tracks job c config data blocks events p)
    {future : Future α β}
    (hMem : future ∈ p.futures)
    (hOpen : future.status.outcome? = none) :
    p.answer = none := by
  cases hAnswer : p.answer with
  | none => rfl
  | some answer =>
      rcases hTracks.answered answer hAnswer with
        ⟨hOutcomes, -, -⟩
      rcases exists_outcome_of_outcomes? hOutcomes hMem with
        ⟨outcome, hOutcome⟩
      rw [hOpen] at hOutcome
      cases hOutcome

/-
  What a worker does with one block.  The events of the other
  blocks are the same as before.
-/
theorem work
    (hTracks : Tracks job c config data blocks events p)
    {number : Nat}
    {task : Task α}
    {before after : Status α β}
    (hFuture : p.futures[number]? = some ⟨task, before⟩)
    (hOpen : before.outcome? = none)
    {event : Event α}
    (hSets : ∀ c : Context α, event.settle c = c)
    (hOthers :
      ∀ i, number ≠ i →
        event.starts i = false ∧ event.finishes i = false)
    (hAgrees :
      Future.Agrees job (events ++ [event]) number
        ⟨task, after⟩) :
    Tracks job c config data blocks (events ++ [event])
      { p with
        futures := p.futures.set number ⟨task, after⟩ } := by
  have hNone : p.answer = none :=
    hTracks.answer_eq_none (List.mem_of_getElem? hFuture) hOpen
  refine
    { config_eq := hTracks.config_eq
      data_eq := hTracks.data_eq
      tasks := hTracks.tasks_set hFuture after
      futures := ?_
      unanswered := ?_
      answered := ?_ }
  · intro i found hFound
    by_cases hSame : number = i
    · rw [← hSame] at hFound ⊢
      rw [List.getElem?_set_self'] at hFound
      rcases Option.map_eq_some_iff.mp hFound with
        ⟨_, -, hNew⟩
      rw [← hNew]
      exact hAgrees
    · rw [List.getElem?_set_ne hSame] at hFound
      rcases hOthers i hSame with ⟨hStarts, hFinishes⟩
      exact
        (hTracks.futures i found hFound).concat hStarts
          hFinishes
  · intro _
    rw [settled_concat, hSets]
    exact hTracks.unanswered hNone
  · intro answer hAnswer
    rw [hNone] at hAnswer
    cases hAnswer

theorem start
    (hTracks : Tracks job c config data blocks events p)
    {number : Nat}
    (hStep : step? job p (.start number) = some p') :
    Tracks job c config data blocks
      (events ++ [.start number]) p' := by
  rcases step?_start_iff.mp hStep with ⟨task, hFuture, rfl⟩
  have hBefore := hTracks.futures number _ hFuture
  rcases hBefore.eq_of_waiting with ⟨hStarts, hFinishes⟩
  apply hTracks.work hFuture rfl (fun _ => rfl)
  · intro i hOther
    exact ⟨beq_false_of_ne hOther, rfl⟩
  · unfold Future.Agrees
    rw [List.countP_append, List.countP_append, hStarts,
      hFinishes]
    simp only [List.countP_singleton, Event.starts,
      Event.finishes, BEq.rfl, if_true]
    exact .running

theorem finish
    (hTracks : Tracks job c config data blocks events p)
    {number : Nat}
    (hStep : step? job p (.finish number) = some p') :
    Tracks job c config data blocks
      (events ++ [.finish number]) p' := by
  rcases step?_finish_iff.mp hStep with ⟨task, hFuture, rfl⟩
  have hBefore := hTracks.futures number _ hFuture
  rcases hBefore.eq_of_running with ⟨hStarts, hFinishes⟩
  apply hTracks.work hFuture rfl (fun _ => rfl)
  · intro i hOther
    exact ⟨rfl, beq_false_of_ne hOther⟩
  · unfold Future.Agrees
    rw [List.countP_append, List.countP_append, hStarts,
      hFinishes]
    simp only [List.countP_singleton, Event.starts,
      Event.finishes, BEq.rfl, if_true]
    exact .finished

/- Somebody sets a property, before or after the answer. -/
theorem set
    (hTracks : Tracks job c config data blocks events p)
    {name value : Value α}
    (hStep : step? job p (.set name value) = some p') :
    Tracks job c config data blocks
      (events ++ [.set name value]) p' := by
  cases hStep
  refine
    { config_eq := hTracks.config_eq
      data_eq := hTracks.data_eq
      tasks := hTracks.tasks
      futures := ?_
      unanswered := ?_
      answered := ?_ }
  · intro number future hFuture
    exact (hTracks.futures number future hFuture).concat rfl rfl
  · intro hNone
    rw [settled_concat, ← hTracks.unanswered hNone]
    rfl
  · intro answer hAnswer
    rcases hTracks.answered answer hAnswer with
      ⟨hOutcomes, hSame, hContext⟩
    refine ⟨hOutcomes, hSame, ?_⟩
    dsimp only
    rw [settled_concat, Event.settle, Context.state_set,
      Context.state_set, hContext, Job.settingsAfter_collect,
      ← settled_eq]
    rfl

/- The caller concludes from what all blocks have come to. -/
theorem conclude
    (hTracks : Tracks job c config data blocks events p)
    (hStep : step? job p .conclude = some p') :
    Tracks job c config data blocks
      (events ++ [.conclude]) p' := by
  rcases step?_conclude_iff.mp hStep with
    ⟨hNone, outcomes, hOutcomes, rfl⟩
  have hBlocks := hTracks.outcomes_eq hOutcomes
  rw [hBlocks] at hOutcomes ⊢
  refine
    { config_eq := hTracks.config_eq
      data_eq := hTracks.data_eq
      tasks := hTracks.tasks
      futures := ?_
      unanswered := ?_
      answered := ?_ }
  · intro number future hFuture
    exact (hTracks.futures number future hFuture).concat rfl rfl
  · intro hOpen
    cases hOpen
  · intro answer hAnswer
    have hContext := hTracks.unanswered hNone
    rw [settled_eq] at hContext
    cases hAnswer
    dsimp only
    rw [hTracks.config_eq, hTracks.data_eq, hTracks.blocks_eq,
      hContext, Job.collect_withSettings, settled_concat]
    exact ⟨hOutcomes, rfl, rfl⟩

/- What can happen next keeps track. -/
theorem step
    (hTracks : Tracks job c config data blocks events p)
    {event : Event α}
    (hStep : step? job p event = some p') :
    Tracks job c config data blocks (events ++ [event]) p' := by
  cases event with
  | start number => exact hTracks.start hStep
  | finish number => exact hTracks.finish hStep
  | set name value => exact hTracks.set hStep
  | conclude => exact hTracks.conclude hStep

/- So does all that happens until some time. -/
theorem run
    (hTracks : Tracks job c config data blocks events p)
    {more : List (Event α)}
    (hRun : run? job p more = some p') :
    Tracks job c config data blocks (events ++ more) p' := by
  induction more generalizing events p with
  | nil =>
      cases hRun
      rw [List.append_nil]
      exact hTracks
  | cons event more ih =>
      rcases Option.bind_eq_some_iff.mp hRun with
        ⟨next, hStep, hRest⟩
      rw [List.append_cons]
      exact ih (hTracks.step hStep) hRest

end Tracks

end Pool

end NeighbourInfo
