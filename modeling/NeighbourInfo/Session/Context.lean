import NeighbourInfo.Distribution
import NeighbourInfo.Session.Shared

/-
  The operations of an estimator within a session.

  Key definitions include:
    * `NeighbourInfo.Context`
    * `NeighbourInfo.Context.finalise`
    * `NeighbourInfo.Context.compute`
    * `NeighbourInfo.Context.exchanging`
    * `NeighbourInfo.Context.average`
    * `NeighbourInfo.Context.locals`
    * `NeighbourInfo.Context.significance`

  An average is taken from the observations as they are, or
  with one variable in a new order, which then stands in the
  estimator for as long as the computation takes.  Only the
  former average is kept as the last one; every computation
  that succeeds is recorded in the summary of the session.
-/

------------------------------------------------------------
-- Contexts
------------------------------------------------------------

namespace NeighbourInfo

/- An estimator together with the state that it shares. -/
structure Context (α : Type) where
  estimator : Estimator α
  shared : Shared α

namespace Context

variable {α β : Type}

/- The estimator. -/
def estimator? :
    Transition (Context α) α (Estimator α) :=
  fun c => (pure c.estimator, c)

/- Change the estimator, or leave it alone if that fails. -/
def updateEstimator
    (f : Estimator α → Except (Error α) (Estimator α)) :
    Transition (Context α) α Unit :=
  Transition.update fun c =>
    (f c.estimator).map fun e => { c with estimator := e }

/- An operation on the shared state alone. -/
def onShared
    (t : Transition (Shared α) α β) :
    Transition (Context α) α β :=
  fun c =>
    let (r, shared) := t c.shared
    (r, { c with shared := shared })

end Context

end NeighbourInfo

------------------------------------------------------------
-- Collecting Observations
------------------------------------------------------------

namespace NeighbourInfo

namespace Context

variable {α : Type} [Scalar α]

/-
  Complete the observations.  The chunks are closed even where
  there is nothing to install, and the new observations stay
  where noise cannot be added to them.
-/
def finalise :
    Transition (Context α) α Unit := do
  let chunks ←
    Transition.change fun c =>
      c.estimator.close.map fun (chunks, e) =>
        (chunks, { c with estimator := e })
  updateEstimator (Estimator.install chunks)
  Transition.update fun c =>
    (c.estimator.addNoise c.shared.chance).map
      fun (e, chance) =>
        ⟨e, { c.shared with chance := chance }⟩

/- Take all observations at once. -/
def setObservations
    [Literal α]
    (x : Value α)
    (y : Value α)
    (z : Value α) :
    Transition (Context α) α Unit := do
  updateEstimator Estimator.start
  updateEstimator (Estimator.add x y z .null)
  finalise

end Context

end NeighbourInfo

------------------------------------------------------------
-- Averages
------------------------------------------------------------

namespace NeighbourInfo

namespace Context

variable {α β : Type} [Scalar α]

/- The method, or an error where there is none. -/
def method
    (missing : Error α) :
    Transition (Context α) α (Method α) := do
  let e ← estimator?
  match e.method with
  | some method => return method
  | none => Transition.ofExcept (.error missing)

/- Record a computation in the shared summary. -/
def record
    (computation : Computation α) :
    Transition (Context α) α Unit :=
  onShared (Shared.record computation)

/- Keep an average as the last one. -/
def keepAverage
    (value : α) :
    Transition (Context α) α Unit :=
  updateEstimator fun e =>
    .ok { e with lastAverage := some value }

/-
  Have the method compute from the observations as they are,
  and record the computation.  The means of an average are
  known before its closing formula is applied; by
  `Context.recordingSums_eq` they may as well be recorded then.
-/
def compute
    (missing : Error α)
    (evaluate :
      Method α → Settings α → Observations α →
        Report α (Computation α × β)) :
    Transition (Context α) α β := do
  let method ← method missing
  let e ← estimator?
  let data ← Transition.ofExcept e.finalised
  let (computation, result) ←
    Transition.report (evaluate method e.settings data)
  record computation
  return result

/- The average from the observations as they are. -/
def plainAverage :
    Transition (Context α) α α := do
  let value ← compute .notImplemented Method.average
  keepAverage value
  let e ← estimator?
  Transition.noteWhen e.settings.debug [.calculated]
  return value

/-
  Run an operation while another table stands for a variable.
  The former table is put back when the operation has ended,
  whether it succeeded or not.
-/
def exchanging
    (chosen : Variable)
    (former : Table α)
    (t : Table α)
    (operation : Transition (Context α) α β) :
    Transition (Context α) α β :=
  fun c =>
    let (r, after) :=
      operation
        { c with estimator := c.estimator.withTable t chosen }
    (r,
      { after with
        estimator := after.estimator.withTable former chosen })

variable [Literal α]

/- Read a new order of some rows. -/
def readOrdering
    (rows : Nat)
    (ordering : Value α) :
    Except (Error α) (List Int) :=
  match ordering.items? with
  | some items =>
      if items.length = rows then Tensor.indices ordering
      else .error (.wrongReordering items.length rows)
  | none => .error .wrongKind

/- The rows of a table in a new order. -/
def reorder
    (former : Table α)
    (ordering : Value α) :
    Except (Error α) (Table α) := do
  let indices ← readOrdering former.size ordering
  former.gather indices

/-
  The average with one variable in a new order.  The order is
  checked before anything is exchanged.
-/
def reorderedAverage
    (chosen : Value α)
    (ordering : Value α) :
    Transition (Context α) α α := do
  let _ ← method .notImplemented
  let e ← estimator?
  let data ← Transition.ofExcept e.finalised
  let chosen ← Transition.ofExcept (Variable.ofValue chosen)
  let former := data.table chosen
  let t ← Transition.ofExcept (reorder former ordering)
  exchanging chosen former t
    (compute .notImplemented Method.average)

/- The average, in a new order if one is given. -/
def average
    (chosen : Value α)
    (ordering : Value α) :
    Transition (Context α) α α :=
  match ordering with
  | .null => plainAverage
  | ordering => reorderedAverage chosen ordering

end Context

end NeighbourInfo

------------------------------------------------------------
-- Local Values
------------------------------------------------------------

namespace NeighbourInfo

namespace Context

variable {α : Type} [Scalar α]

/- The local values; their mean is kept as the average. -/
def locals :
    Transition (Context α) α (List α) := do
  let values ← compute .noSuchPart Method.locals
  keepAverage (Scalar.mean values)
  return values

/- Local values of other observations are not available. -/
def localsOfNew :
    Transition (Context α) α (List α) := do
  let _ ← method .noSuchPart
  Transition.ofExcept (.error .noLocalsOfNew)

end Context

end NeighbourInfo

------------------------------------------------------------
-- Significance
------------------------------------------------------------

namespace NeighbourInfo

namespace Context

variable {α : Type} [Scalar α] [Literal α]

/- Read how many permutations to draw. -/
def readCount
    (count : Value α) :
    Except (Error α) Int :=
  match count with
  | .null => .error .noSurrogates
  | count => do
      if ← count.isBelow 1 then throw .noSurrogates
      Tensor.readLength count

/- The given orderings, or as many as are to be drawn. -/
def chooseOrderings
    (rows : Nat)
    (count : Value α)
    (orderings : Value α) :
    Transition (Context α) α (Value α) := do
  match orderings with
  | .null =>
      let count ← Transition.ofExcept (readCount count)
      let drawn ← onShared (Shared.drawPermutations rows count)
      return .list
        (drawn.map fun indices =>
          .list (indices.map Value.whole))
  | orderings => return orderings

/-
  Compare the average with its values on surrogates, in each
  of which one variable has a new order.
-/
def significance
    (chosen : Value α)
    (count : Value α)
    (orderings : Value α) :
    Transition (Context α) α (Distribution α) := do
  let e ← estimator?
  let data ← Transition.ofExcept e.finalised
  let _ ← Transition.ofExcept (Variable.ofValue chosen)
  let orderings ← chooseOrderings data.size count orderings
  let actual ← average .null .null
  match orderings.items? with
  | some items =>
      let values ← items.mapM (average chosen)
      return ⟨Tensor.ofList values, actual⟩
  | none => Transition.ofExcept (.error .wrongKind)

end Context

end NeighbourInfo
