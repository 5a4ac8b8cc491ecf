import NeighbourInfo.Session.Command

/-
  Computations by several threads at a time.

  Key definitions include:
    * `NeighbourInfo.Pool`
    * `NeighbourInfo.Pool.Event`
    * `NeighbourInfo.Pool.Job`
    * `NeighbourInfo.Pool.opening`
    * `NeighbourInfo.Pool.step?`
    * `NeighbourInfo.Pool.run?`

  Every block is handed over to a pool of workers, together
  with the settings and the observations as they are at that
  time.  Workers start and finish the blocks in any order,
  while properties of the estimator may be set.  When all are
  finished the outcomes are read in the order of the blocks.
-/

------------------------------------------------------------
-- Futures
------------------------------------------------------------

namespace NeighbourInfo

namespace Pool

/- A block, with all that a worker sees. -/
structure Task (α : Type) where
  config : Config α
  data : Observations α
  block : Block

/- How far a worker has come with a block. -/
inductive Status (α β : Type) where
  | waiting
  | running
  | finished (outcome : Except (Error α) β)

namespace Status

variable {α β : Type}

/- What has come of the block, once it is finished. -/
def outcome? :
    Status α β → Option (Except (Error α) β)
  | .finished outcome => some outcome
  | _ => none

end Status

/- A block that was handed over. -/
structure Future (α β : Type) where
  task : Task α
  status : Status α β

end Pool

end NeighbourInfo

------------------------------------------------------------
-- Jobs
------------------------------------------------------------

namespace NeighbourInfo

namespace Pool

/-
  What is to be computed.  A block contributes to it, which
  only a worker does.  From all contributions follow what is
  recorded and, unless the closing formula fails, the average
  to be kept and the answer.
-/
structure Job (α β γ : Type) where
  contribute :
    Config α → Observations α → Block → Except (Error α) β
  conclude :
    Config α → Nat → List (Block × β) →
      Computation α × Report α (α × γ)

namespace Job

variable {α β γ : Type} [Scalar α]

/- The average; a block contributes sums. -/
def average
    (kernel : Kernel α) :
    Job α (Sums α) α where
  contribute := kernel.sums
  conclude config points parts :=
    let sums := Sums.total (parts.map Prod.snd)
    let means := sums.dividedBy (Scalar.ofNat points)
    (⟨points, config.threads, parts.map Prod.fst, some means⟩,
      do
        let k ← Report.ofExcept config.search.k.toArgument
        let value := means.average config.algorithm k
        Report.noteWhen config.debug
          [.meanCounts means,
            .closing config.algorithm k means value]
        return (value, value))

/-
  The local values.  Those of a block are written to its place
  in an array that may hold anything before.
-/
def locals
    (kernel : Kernel α)
    (empty : List α) :
    Job α (List α) (List α) where
  contribute := kernel.locals
  conclude config points parts :=
    let values := Evaluation.assemble empty parts
    (⟨points, config.threads, parts.map Prod.fst, none⟩,
      return (Scalar.mean values, values))

/-
  Read the outcomes, in the order of the blocks.  The first
  that is an error is given as it is.  Otherwise what has been
  computed is recorded before the closing formula is applied.
-/
def collect
    (job : Job α β γ)
    (config : Config α)
    (points : Nat)
    (blocks : List Block)
    (outcomes : List (Except (Error α) β)) :
    Transition (Context α) α γ := do
  let parts ← Transition.ofExcept (outcomes.mapM id)
  let (computation, closing) :=
    job.conclude config points (blocks.zip parts)
  Context.record computation
  let (value, answer) ← Transition.report closing
  Context.keepAverage value
  return answer

end Job

end Pool

end NeighbourInfo

------------------------------------------------------------
-- Pools
------------------------------------------------------------

namespace NeighbourInfo

/-
  A computation that several threads are at: the context as it
  is by now, what the caller captured at entry, the blocks in
  their order, and the answer once there is one.
-/
structure Pool (α β γ : Type) where
  context : Context α
  config : Config α
  data : Observations α
  futures : List (Pool.Future α β)
  answer : Option (Report α γ)

namespace Pool

variable {α β γ : Type}

/- A pool to which blocks have just been handed over. -/
def fresh
    (c : Context α)
    (config : Config α)
    (data : Observations α)
    (blocks : List Block) :
    Pool α β γ :=
  ⟨c, config, data,
    blocks.map fun block => ⟨⟨config, data, block⟩, .waiting⟩,
    none⟩

/- The outcomes of all blocks, once all are finished. -/
def outcomes?
    (p : Pool α β γ) :
    Option (List (Except (Error α) β)) :=
  p.futures.mapM fun future => future.status.outcome?

/- The blocks that were handed over. -/
def blocks
    (p : Pool α β γ) :
    List Block :=
  p.futures.map fun future => future.task.block

/-
  Capture the observations and the settings, and hand over the
  blocks.
-/
def opening
    [Scalar α]
    (method : Method α)
    (c : Context α) :
    Report α (Pool α β γ) := do
  let data ← Report.ofExcept c.estimator.finalised
  let config ←
    Report.ofExcept (method.config c.estimator.settings)
  let points := data.size
  let k := config.search.k
  let isWarned ← Report.ofExcept (Evaluation.areFew points k)
  Report.noteWhen isWarned [.fewPoints points k]
  let blocks ←
    Report.ofExcept
      (Block.split points config.threads.toNat)
  Report.noteWhen config.debug
    (Evaluation.divisionNotes config points blocks)
  return fresh c config data blocks

end Pool

end NeighbourInfo

------------------------------------------------------------
-- Events
------------------------------------------------------------

namespace NeighbourInfo

namespace Pool

/- What can happen next. -/
inductive Event (α : Type) where
  /- A worker starts a block. -/
  | start (number : Nat)
  /- A worker finishes a block. -/
  | finish (number : Nat)
  /- Somebody sets a property of the estimator. -/
  | set (name : Value α) (value : Value α)
  /- The caller reads the outcomes. -/
  | conclude

variable {α β γ : Type} [Scalar α] [Literal α]

/-
  The pool after an event, if the event can happen.  Setting a
  property may fail, which the pool takes no notice of.
-/
def step?
    (job : Job α β γ)
    (p : Pool α β γ) :
    Event α → Option (Pool α β γ)
  | .start number =>
      match p.futures[number]? with
      | some ⟨task, .waiting⟩ =>
          some
            { p with
              futures := p.futures.set number ⟨task, .running⟩ }
      | _ => none
  | .finish number =>
      match p.futures[number]? with
      | some ⟨task, .running⟩ =>
          let outcome :=
            job.contribute task.config task.data task.block
          some
            { p with
              futures :=
                p.futures.set number
                  ⟨task, .finished outcome⟩ }
      | _ => none
  | .set name value =>
      some
        { p with
          context :=
            ((Command.set name value).run p.context).2 }
  | .conclude =>
      match p.answer, p.outcomes? with
      | none, some outcomes =>
          let (answer, context) :=
            job.collect p.config p.data.size p.blocks outcomes
              p.context
          some
            { p with
              context := context
              answer := some answer }
      | _, _ => none

/- The pool after several events, if they can happen. -/
def run?
    (job : Job α β γ)
    (p : Pool α β γ) :
    List (Event α) → Option (Pool α β γ)
  | [] => some p
  | event :: events => do
      let p ← step? job p event
      run? job p events

/- The pool is what a computation has come to by events. -/
def IsRun
    (job : Job α β γ)
    (method : Method α)
    (c : Context α)
    (events : List (Event α))
    (p : Pool α β γ) :
    Prop :=
  ∃ opened,
    (opening method c).result = .ok opened ∧
      run? job opened events = some p

end Pool

end NeighbourInfo
