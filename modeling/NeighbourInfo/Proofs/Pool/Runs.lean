import NeighbourInfo.Proofs.Pool.Tracking

/-
  Runs of a computation by several threads.

  Key definitions include:
    * `NeighbourInfo.Pool.left`
    * `NeighbourInfo.Config.captured`
    * `NeighbourInfo.Estimator.IsDividing`
    * `NeighbourInfo.Context.concluded`
    * `NeighbourInfo.Pool.IsOrderly`
    * `NeighbourInfo.Pool.Job.Describes`
    * `NeighbourInfo.Pool.IsOutcome`

  Until there is an answer some event can always happen which
  brings it nearer.  Once there is one, all blocks have been
  run, and it is what their outcomes come to in order.

  This is proven by:
    * `NeighbourInfo.Pool.exists_run_answered`
    * `NeighbourInfo.Pool.IsRun.tracks`
    * `NeighbourInfo.Pool.Tracks.isOrderly`
    * `NeighbourInfo.Pool.Tracks.result_eq`
    * `NeighbourInfo.Pool.Tracks.concluded`
    * `NeighbourInfo.Pool.Tracks.isOutcome`
-/

------------------------------------------------------------
-- Progress
------------------------------------------------------------

namespace NeighbourInfo

namespace Pool

variable {α β γ : Type}

/- How many events a block is away from being finished. -/
def Status.left :
    Status α β → Nat
  | .waiting => 2
  | .running => 1
  | .finished _ => 0

/- How many events all blocks are away from it together. -/
def left
    (p : Pool α β γ) :
    Nat :=
  (p.futures.map fun future => future.status.left).sum

private theorem sum_left_set_lt
    {futures : List (Future α β)}
    {number : Nat}
    {before after : Future α β}
    (hFuture : futures[number]? = some before)
    (hLess : after.status.left < before.status.left) :
    ((futures.set number after).map fun future =>
        future.status.left).sum <
      (futures.map fun future => future.status.left).sum := by
  induction futures generalizing number with
  | nil => cases hFuture
  | cons future futures ih =>
      cases number with
      | zero =>
          cases hFuture
          rw [List.set_cons_zero, List.map_cons, List.map_cons,
            List.sum_cons, List.sum_cons]
          exact Nat.add_lt_add_right hLess _
      | succ number =>
          rw [List.set_cons_succ, List.map_cons, List.map_cons,
            List.sum_cons, List.sum_cons]
          exact Nat.add_lt_add_left (ih hFuture) _

variable [Scalar α] [Literal α]
variable {job : Job α β γ} {p : Pool α β γ}

/- Unless all blocks are finished some worker can go on. -/
theorem exists_step_of_outcomes?_eq_none
    (job : Job α β γ)
    (hOpen : p.outcomes? = none) :
    ∃ event p',
      step? job p event = some p' ∧ p'.left < p.left := by
  rcases exists_of_mapM_eq_none hOpen with
    ⟨⟨task, status⟩, hMem, hMissing⟩
  rcases List.mem_iff_getElem?.mp hMem with ⟨number, hFuture⟩
  cases status with
  | waiting =>
      have hStep : step? job p (.start number) = some _ :=
        step?_start_iff.mpr ⟨task, hFuture, rfl⟩
      refine ⟨.start number, _, hStep, ?_⟩
      exact sum_left_set_lt hFuture (Nat.lt_succ_self 1)
  | running =>
      have hStep : step? job p (.finish number) = some _ :=
        step?_finish_iff.mpr ⟨task, hFuture, rfl⟩
      refine ⟨.finish number, _, hStep, ?_⟩
      exact sum_left_set_lt hFuture Nat.one_pos
  | finished outcome => cases hMissing

/- Whatever has happened, there can be an answer in the end. -/
theorem exists_run_answered
    (job : Job α β γ)
    (p : Pool α β γ) :
    ∃ events done,
      run? job p events = some done ∧
        done.answer.isSome = true := by
  induction hLeft : p.left using Nat.strong_induction_on
    generalizing p with
  | _ n ih =>
      cases hAnswer : p.answer with
      | some answer =>
          refine ⟨[], p, rfl, ?_⟩
          rw [hAnswer]
          rfl
      | none =>
          cases hOutcomes : p.outcomes? with
          | some outcomes =>
              have hStep : step? job p .conclude = some _ :=
                step?_conclude_iff.mpr
                  ⟨hAnswer, outcomes, hOutcomes, rfl⟩
              have hRun : run? job p [.conclude] = some _ :=
                run?_cons hStep []
              exact ⟨[.conclude], _, hRun, rfl⟩
          | none =>
              rcases exists_step_of_outcomes?_eq_none job
                  hOutcomes with
                ⟨event, p', hStep, hLess⟩
              rcases ih _ (hLeft ▸ hLess) p' rfl with
                ⟨events, done, hRun, hDone⟩
              have hBoth :
                  run? job p (event :: events) = some done :=
                (run?_cons hStep events).trans hRun
              exact ⟨event :: events, done, hBoth, hDone⟩

end Pool

end NeighbourInfo

------------------------------------------------------------
-- Runs
------------------------------------------------------------

namespace NeighbourInfo

/- The settings that a computation captures at entry. -/
def Config.captured
    {α : Type}
    (algorithm : Algorithm)
    (settings : Settings α) :
    Config α :=
  ⟨algorithm, settings.search, settings.threads,
    settings.debug⟩

/-
  The estimator is about to divide the points among several
  threads.  Its number of neighbours is one that the number of
  points can be compared with.
-/
structure Estimator.IsDividing
    {α : Type}
    [Scalar α]
    (algorithm : Algorithm)
    (kernel : Kernel α)
    (data : Observations α)
    (blocks : List Block)
    (e : Estimator α) :
    Prop where
  method : e.method = some ⟨some algorithm, kernel⟩
  observations : e.observations = some data
  comparable :
    ∃ isFew,
      Evaluation.areFew data.size e.settings.k = .ok isFew
  several : e.settings.threads.toNat ≠ 1
  split :
    Block.split (α := α) data.size e.settings.threads.toNat =
      .ok blocks

namespace Pool

variable {α β γ : Type} [Scalar α]

/- The blocks are handed over with what was captured. -/
theorem result_opening
    {algorithm : Algorithm}
    {kernel : Kernel α}
    {data : Observations α}
    {blocks : List Block}
    {c : Context α}
    (hDividing :
      c.estimator.IsDividing algorithm kernel data blocks) :
    (opening ⟨some algorithm, kernel⟩ c :
        Report α (Pool α β γ)).result =
      .ok
        (fresh c (.captured algorithm c.estimator.settings)
          data blocks) := by
  have hFinalised :=
    Estimator.finalised_of_some hDividing.observations
  rcases hDividing.comparable with ⟨isFew, hFew⟩
  unfold opening
  simp only [Report.result_bind, Report.result_ofExcept,
    hFinalised, Method.config, Settings.search, Except.bind,
    hFew, hDividing.split, Report.noteWhen]
  rfl

variable [Literal α]
variable {job : Job α β γ} {method : Method α} {c : Context α}
variable {config : Config α} {data : Observations α}
variable {blocks : List Block} {events : List (Event α)}
variable {p : Pool α β γ}

/- What happens later goes on from what has happened. -/
private theorem run?_append
    {p p' : Pool α β γ}
    (hRun : run? job p events = some p')
    (more : List (Event α)) :
    run? job p (events ++ more) = run? job p' more := by
  induction events generalizing p with
  | nil =>
      cases hRun
      rfl
  | cons event events ih =>
      rcases Option.bind_eq_some_iff.mp hRun with
        ⟨next, hStep, hRest⟩
      rw [List.cons_append, run?_cons hStep, ih hRest]

/- Any computation can go on until there is an answer. -/
theorem IsRun.exists_answered
    (hRun : IsRun job method c events p) :
    ∃ more done,
      IsRun job method c (events ++ more) done ∧
        done.answer.isSome = true := by
  rcases hRun with ⟨opened, hOpened, hRun⟩
  rcases exists_run_answered job p with
    ⟨more, done, hMore, hDone⟩
  refine ⟨more, done, ⟨opened, hOpened, ?_⟩, hDone⟩
  exact (run?_append hRun more).trans hMore

/- Whatever happens keeps track of what was handed over. -/
theorem IsRun.tracks
    (hRun : IsRun job method c events p)
    (hOpening :
      (opening method c).result =
        .ok (fresh (γ := γ) (β := β) c config data blocks)) :
    Tracks job c config data blocks events p := by
  rcases hRun with ⟨opened, hOpened, hRun⟩
  rw [hOpening] at hOpened
  cases hOpened
  exact tracks_fresh.run hRun

end Pool

end NeighbourInfo

------------------------------------------------------------
-- Order
------------------------------------------------------------

namespace NeighbourInfo

/-
  The context in which a computation has been recorded, and
  the average that came of it is kept.
-/
def Context.concluded
    {α : Type}
    (computation : Computation α)
    (average? : Option α)
    (c : Context α) :
    Context α :=
  match average? with
  | some value =>
      ⟨c.estimator.keeping value,
        (c.recorded computation).shared⟩
  | none => c.recorded computation

namespace Pool

variable {α β γ : Type} [Scalar α] [Literal α]

/-
  The computation is under way as it should be.  There can be
  an answer in the end.  Workers see what was captured at
  entry, and when there is an answer, each block was started
  and finished once.  Before there is an answer, and where it
  is an error, nothing has been done to the context except to
  set properties; the error is that of the first block which
  failed, in the order of the blocks.
-/
structure IsOrderly
    (job : Job α β γ)
    (method : Method α)
    (c : Context α)
    (config : Config α)
    (data : Observations α)
    (blocks : List Block)
    (events : List (Event α))
    (p : Pool α β γ) :
    Prop where
  exists_answered :
    ∃ more done,
      IsRun job method c (events ++ more) done ∧
        done.answer.isSome = true
  tasks :
    p.futures.map Future.task = blocks.map (Task.mk config data)
  unanswered : p.answer = none → p.context = settled events c
  once :
    p.answer.isSome = true →
      ∀ number < blocks.length,
        events.countP (Event.starts number) = 1 ∧
          events.countP (Event.finishes number) = 1
  failed :
    ∀ answer, p.answer = some answer →
      ∀ (before : List β) (e : Error α)
        (after : List (Except (Error α) β)),
        blocks.map (job.contribute config data) =
            before.map .ok ++ .error e :: after →
          answer = ⟨[], .error e⟩ ∧
            p.context = settled events c

variable {job : Job α β γ} {method : Method α} {c : Context α}
variable {config : Config α} {data : Observations α}
variable {blocks : List Block} {events : List (Event α)}
variable {p : Pool α β γ} {answer : Report α γ}

namespace Tracks

/- Once there is an answer, every block was run once. -/
private theorem countP_eq_one
    (hTracks : Tracks job c config data blocks events p)
    (hAnswer : p.answer = some answer)
    {number : Nat}
    (hNumber : number < blocks.length) :
    events.countP (Event.starts number) = 1 ∧
      events.countP (Event.finishes number) = 1 := by
  rcases hTracks.answered answer hAnswer with
    ⟨hOutcomes, -, -⟩
  have hLength := congrArg List.length hTracks.tasks
  rw [List.length_map, List.length_map] at hLength
  have hBound : number < p.futures.length :=
    hLength ▸ hNumber
  have hFuture := List.getElem?_eq_getElem hBound
  have hAgrees := hTracks.futures number _ hFuture
  rcases
      exists_outcome_of_outcomes? hOutcomes
        (List.getElem_mem hBound) with
    ⟨outcome, hOutcome⟩
  rcases hAgrees.eq_of_outcome? hOutcome with
    ⟨hStarts, hFinishes, -⟩
  exact ⟨hStarts, hFinishes⟩

/- All that holds of a pool makes it orderly. -/
theorem isOrderly
    (hTracks : Tracks job c config data blocks events p)
    (hRun : IsRun job method c events p) :
    IsOrderly job method c config data blocks events p := by
  refine
    { exists_answered := hRun.exists_answered
      tasks := hTracks.tasks
      unanswered := hTracks.unanswered
      once := ?_
      failed := ?_ }
  · intro hAnswered number hNumber
    rcases Option.isSome_iff_exists.mp hAnswered with
      ⟨answer, hAnswer⟩
    exact hTracks.countP_eq_one hAnswer hNumber
  · intro answer hAnswer before e after hFailed
    rcases hTracks.answered answer hAnswer with
      ⟨-, hSame, hContext⟩
    have hOutcomes :
        (blocks.map (job.contribute config data)).mapM id =
          .error e := by
      rw [hFailed]
      exact mapM_id_append_error before e after
    rw [Job.collect_of_error hOutcomes] at hSame hContext
    rw [← settled_eq] at hContext
    exact ⟨hSame, hContext⟩

/- The answer is that of one block after another. -/
theorem result_eq
    (hTracks : Tracks job c config data blocks events p)
    (hAnswer : p.answer = some answer) :
    answer.result =
      (blocks.mapM (job.contribute config data)).bind
        fun parts =>
          (job.conclude config data.size
            (blocks.zip parts)).2.result.map Prod.snd := by
  rcases hTracks.answered answer hAnswer with ⟨-, hSame, -⟩
  have hOutcomes :
      (blocks.map (job.contribute config data)).mapM id =
        blocks.mapM (job.contribute config data) :=
    List.mapM_map
  rw [hSame]
  cases hParts : blocks.mapM (job.contribute config data) with
  | error e =>
      rw [hParts] at hOutcomes
      rw [Job.collect_of_error hOutcomes]
      rfl
  | ok parts =>
      rw [hParts] at hOutcomes
      rw [Job.collect_of_ok hOutcomes]
      change
        _ =
          (job.conclude config data.size
            (blocks.zip parts)).2.result.map Prod.snd
      rcases
          job.conclude config data.size (blocks.zip parts) with
        ⟨computation, ⟨notes, e | ⟨value, result⟩⟩⟩
      · rfl
      · rfl

/- Where no block failed, what comes of them is kept. -/
theorem concluded
    (hTracks : Tracks job c config data blocks events p)
    (hAnswer : p.answer = some answer)
    {parts : List β}
    (hParts :
      blocks.map (job.contribute config data) =
        parts.map .ok) :
    let conclusion :=
      job.conclude config data.size (blocks.zip parts)
    let average? := conclusion.2.result.toOption.map Prod.fst
    answer.result = conclusion.2.result.map Prod.snd ∧
      p.context =
        (settled events c).concluded conclusion.1 average? := by
  intro conclusion average?
  constructor
  · rw [hTracks.result_eq hAnswer, mapM_eq_ok_iff.mpr hParts]
    rfl
  · rcases hTracks.answered answer hAnswer with
      ⟨-, -, hContext⟩
    have hOutcomes :
        (blocks.map (job.contribute config data)).mapM id =
          .ok parts := by
      rw [hParts]
      exact mapM_id_map_ok parts
    rw [Job.collect_of_ok hOutcomes] at hContext
    rw [hContext, settled_eq]
    unfold average? conclusion
    rcases
        job.conclude config data.size (blocks.zip parts) with
      ⟨computation, ⟨notes, e | ⟨value, result⟩⟩⟩
    · rfl
    · rfl

end Tracks

end Pool

end NeighbourInfo

------------------------------------------------------------
-- One Block After Another
------------------------------------------------------------

namespace NeighbourInfo

namespace Pool

variable {α β γ : Type} [Scalar α] [Literal α]

/-
  The operation does what the job does with one block after
  another, while nobody sets a property.
-/
structure Job.Describes
    (job : Job α β γ)
    (operation : Transition (Context α) α γ)
    (c : Context α)
    (config : Config α)
    (data : Observations α)
    (blocks : List Block) :
    Prop where
  result :
    (operation c).1.result =
      (blocks.mapM (job.contribute config data)).bind
        fun parts =>
          (job.conclude config data.size
            (blocks.zip parts)).2.result.map Prod.snd
  context :
    ∀ parts : List β,
      blocks.mapM (job.contribute config data) = .ok parts →
        let conclusion :=
          job.conclude config data.size (blocks.zip parts)
        ∀ value answer,
          conclusion.2.result = .ok (value, answer) →
            (operation c).2 =
              c.concluded conclusion.1 (some value)

/-
  The outcome is that of an operation on the context as it was
  at entry.  If it succeeds, what it changes is changed in the
  context besides the properties that were set meanwhile.
-/
structure IsOutcome
    (operation : Transition (Context α) α γ)
    (c : Context α)
    (events : List (Event α))
    (p : Pool α β γ) :
    Prop where
  result :
    ∀ answer, p.answer = some answer →
      answer.result = (operation c).1.result
  context :
    ∀ answer, p.answer = some answer →
      ∀ value, answer.result = .ok value →
        p.context =
          (operation c).2.withSettings
            (settled events c).estimator.settings

/- All that holds of a pool makes its outcome sequential. -/
theorem Tracks.isOutcome
    {job : Job α β γ}
    {c : Context α}
    {config : Config α}
    {data : Observations α}
    {blocks : List Block}
    {events : List (Event α)}
    {p : Pool α β γ}
    (hTracks : Tracks job c config data blocks events p)
    {operation : Transition (Context α) α γ}
    (hSame : job.Describes operation c config data blocks) :
    IsOutcome operation c events p := by
  refine
    { result := ?_
      context := ?_ }
  · intro answer hAnswer
    exact (hTracks.result_eq hAnswer).trans hSame.result.symm
  · intro answer hAnswer found hOk
    have hResult := hTracks.result_eq hAnswer
    cases hParts : blocks.mapM (job.contribute config data) with
    | error e =>
        rw [hParts, hOk] at hResult
        cases hResult
    | ok parts =>
        rcases
            hTracks.concluded hAnswer
              (mapM_eq_ok_iff.mp hParts) with
          ⟨hClosing, hContext⟩
        rw [hOk] at hClosing
        cases hConclude :
            (job.conclude config data.size
              (blocks.zip parts)).2.result with
        | error e =>
            rw [hConclude] at hClosing
            cases hClosing
        | ok both =>
            rw [hConclude] at hContext
            rw [hContext, settled_eq,
              hSame.context parts hParts both.1 both.2
                hConclude]
            rfl

end Pool

end NeighbourInfo
