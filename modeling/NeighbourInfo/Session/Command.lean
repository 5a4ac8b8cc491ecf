import NeighbourInfo.Session.Context

/-
  Commands to an estimator, and the answers to them.

  Key definitions include:
    * `NeighbourInfo.Command`
    * `NeighbourInfo.Answer`
    * `NeighbourInfo.Command.run`
-/

------------------------------------------------------------
-- Commands
------------------------------------------------------------

namespace NeighbourInfo

/- What an estimator can be told to do. -/
inductive Command (α : Type) where
  | initialise (dims : Value α)
  | set (name : Value α) (value : Value α)
  | get (name : Value α)
  | setDebug (value : Value α)
  | setObservations (x : Value α) (y : Value α) (z : Value α)
  | start
  | add
      (x : Value α)
      (y : Value α)
      (z : Value α)
      (mask : Value α)
  | finalise
  | average (chosen : Value α) (ordering : Value α)
  | locals
  | localsOf (x : Value α) (y : Value α) (z : Value α)
  | significance
      (chosen : Value α)
      (count : Value α)
      (orderings : Value α)
  | size
  | lastAverage
  | observations
deriving Inhabited

/- What is answered when a command succeeds. -/
inductive Answer (α : Type) where
  | done
  | text (value : Option String)
  | number (n : Nat)
  | scalar (value : α)
  | scalars (values : List α)
  | distribution (d : Distribution α)
  | observations (data : Option (Observations α))
  | threads (count : Nat) (isParallel : Bool)
  | summary (s : Summary α)
deriving Inhabited

end NeighbourInfo

------------------------------------------------------------
-- Running Commands
------------------------------------------------------------

namespace NeighbourInfo

namespace Command

variable {α : Type} [Scalar α] [Literal α]

/- Run a command on an estimator in its context. -/
def run :
    Command α → Transition (Context α) α (Answer α)
  | .initialise dims => do
      Context.updateEstimator (Estimator.initialise dims)
      return .done
  | .set name value => do
      let c ← Transition.current
      Context.updateEstimator
        (Estimator.set c.shared.processors name value)
      return .done
  | .get name => do
      let e ← Context.estimator?
      let value ← Transition.ofExcept (e.get name)
      return .text value
  | .setDebug value => do
      Context.updateEstimator fun e =>
        .ok (e.setDebug value.holds)
      return .done
  | .setObservations x y z => do
      Context.setObservations x y z
      return .done
  | .start => do
      Context.updateEstimator Estimator.start
      return .done
  | .add x y z mask => do
      Context.updateEstimator (Estimator.add x y z mask)
      return .done
  | .finalise => do
      Context.finalise
      return .done
  | .average chosen ordering => do
      let value ← Context.average chosen ordering
      return .scalar value
  | .locals => do
      let values ← Context.locals
      return .scalars values
  | .localsOf _ _ _ => do
      let values ← Context.localsOfNew
      return .scalars values
  | .significance chosen count orderings => do
      let d ← Context.significance chosen count orderings
      return .distribution d
  | .size => do
      let e ← Context.estimator?
      return .number e.size
  | .lastAverage => do
      let e ← Context.estimator?
      return .scalar e.shownAverage
  | .observations => do
      let e ← Context.estimator?
      return .observations e.observations

end Command

end NeighbourInfo
