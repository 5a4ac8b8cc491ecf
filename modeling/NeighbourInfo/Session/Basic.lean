import NeighbourInfo.Session.Command

/-
  Sessions, in which several estimators are used in turn.

  Key definitions include:
    * `NeighbourInfo.Session`
    * `NeighbourInfo.Request`
    * `NeighbourInfo.Session.step`
    * `NeighbourInfo.Session.run`

  A session goes on after an error: each request starts from
  the state that the one before it left.
-/

------------------------------------------------------------
-- Sessions
------------------------------------------------------------

namespace NeighbourInfo

/- The estimators by their names, and what they share. -/
structure Session (α : Type) where
  shared : Shared α
  estimators : List (String × Estimator α)

/- What a session can be asked for. -/
inductive Request (α : Type) where
  | create (id : String) (method : Option (Method α))
  | command (id : String) (command : Command α)
  | chooseThreads (choice : Value α) (processors : Value α)
  | setDefaultK (k : Value α)
  | showSummary (verbosity : Value α)

namespace Session

variable {α : Type}

/- A session without estimators. -/
def initial
    (shared : Shared α) :
    Session α :=
  ⟨shared, []⟩

/- The estimator of a name. -/
def estimator?
    (s : Session α)
    (id : String) :
    Option (Estimator α) :=
  s.estimators.lookup id

/- Give a name to an estimator, which may have been in use. -/
def withEstimator
    (s : Session α)
    (id : String)
    (e : Estimator α) :
    Session α :=
  { s with
    estimators :=
      (id, e) :: s.estimators.filter fun entry =>
        entry.1 != id }

/- The name now stands for the estimator. -/
@[simp]
theorem estimator?_withEstimator
    (s : Session α)
    (id : String)
    (e : Estimator α) :
    (s.withEstimator id e).estimator? id = some e := by
  simp [estimator?, withEstimator]

end Session

end NeighbourInfo

------------------------------------------------------------
-- Steps
------------------------------------------------------------

namespace NeighbourInfo

namespace Session

variable {α β : Type}

/- An operation on the shared state alone. -/
def onShared
    (t : Transition (Shared α) α β) :
    Transition (Session α) α β :=
  fun s =>
    let (r, shared) := t s.shared
    (r, { s with shared := shared })

/- An operation on one estimator, which has to exist. -/
def onEstimator
    (id : String)
    (t : Transition (Context α) α β) :
    Transition (Session α) α β :=
  fun s =>
    match s.estimator? id with
    | some e =>
        let (r, c) := t ⟨e, s.shared⟩
        let s := { s with shared := c.shared }
        (r, s.withEstimator id c.estimator)
    | none => (.ofExcept (.error .noSuchPart), s)

variable [Scalar α] [Literal α]

/- Answer a request. -/
def step :
    Request α → Transition (Session α) α (Answer α)
  | .create id method => do
      Transition.modify fun s =>
        s.withEstimator id
          (.create method s.shared.newSettings)
      return .done
  | .command id command => onEstimator id command.run
  | .chooseThreads choice processors => do
      onShared (Shared.chooseThreads choice processors)
      let s ← Transition.current
      return .threads s.shared.threadCount.toNat
        s.shared.threads.isParallel
  | .setDefaultK k => do
      Transition.modify fun s =>
        { s with shared := { s.shared with defaultK := k } }
      return .done
  | .showSummary verbosity => do
      let summary ← onShared (Shared.showSummary verbosity)
      return .summary summary

/- Answer several requests, one after the other. -/
def run
    (s : Session α) :
    List (Request α) →
      List (Report α (Answer α)) × Session α
  | [] => ([], s)
  | request :: requests =>
      let (answer, s) := step request s
      let (answers, s) := s.run requests
      (answer :: answers, s)

end Session

end NeighbourInfo
