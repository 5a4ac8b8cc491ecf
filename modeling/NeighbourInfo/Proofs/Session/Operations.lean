import NeighbourInfo.Session.Command
import NeighbourInfo.Proofs.Estimator
import NeighbourInfo.Proofs.Session.Reordering

/-
  The operations of an estimator, each told by its cases.

  Key definitions include:
    * `NeighbourInfo.Estimator.evaluation`
    * `NeighbourInfo.Context.recorded`
    * `NeighbourInfo.Context.chosenOrderings`
    * `NeighbourInfo.Context.surrogates`

  What an operation does is written out once here, stage by
  stage, with the state that each failure leaves.

  This is proven by:
    * `NeighbourInfo.Context.compute_eq`
    * `NeighbourInfo.Context.plainAverage_eq`
    * `NeighbourInfo.Context.locals_eq`
    * `NeighbourInfo.Context.reorderedAverage_cases`
    * `NeighbourInfo.Context.significance_eq`
-/

------------------------------------------------------------
-- Changing The Estimator
------------------------------------------------------------

namespace NeighbourInfo

namespace Context

variable {α β : Type}
variable {f : Estimator α → Except (Error α) (Estimator α)}
variable {c : Context α}

theorem updateEstimator_of_error
    {e : Error α}
    (hError : f c.estimator = .error e) :
    updateEstimator f c = (⟨[], .error e⟩, c) := by
  unfold updateEstimator Transition.update
  exact Transition.change_error (by simp only [hError]; rfl)

theorem updateEstimator_of_ok
    {e : Estimator α}
    (hOk : f c.estimator = .ok e) :
    updateEstimator f c =
      (⟨[], .ok ()⟩, { c with estimator := e }) := by
  unfold updateEstimator Transition.update
  exact Transition.change_ok (by simp only [hOk]; rfl)

theorem isAtomic_updateEstimator
    (f : Estimator α → Except (Error α) (Estimator α)) :
    Transition.IsAtomic (updateEstimator f) :=
  Transition.isAtomic_change _

end Context

end NeighbourInfo

------------------------------------------------------------
-- Computing
------------------------------------------------------------

namespace NeighbourInfo

namespace Estimator

variable {α β : Type}

/-
  What the method computes from the observations that the
  estimator holds, or why it computes nothing.
-/
def evaluation
    (missing : Error α)
    (evaluate :
      Method α → Settings α → Observations α →
        Report α (Computation α × β))
    (e : Estimator α) :
    Report α (Computation α × β) :=
  match e.method, e.observations with
  | none, _ => .ofExcept (.error missing)
  | some _, none => .ofExcept (.error .notFinalised)
  | some m, some data => evaluate m e.settings data

/- What was computed was computed from observations. -/
theorem isSome_of_evaluation
    {e : Estimator α}
    {missing : Error α}
    {evaluate :
      Method α → Settings α → Observations α →
        Report α (Computation α × β)}
    {outcome : Computation α × β}
    (hOk :
      (e.evaluation missing evaluate).result = .ok outcome) :
    e.observations.isSome = true := by
  unfold evaluation at hOk
  split at hOk
  · cases hOk
  · cases hOk
  · next data _ hData => simp [hData]

variable [Scalar α]

/- The average from the observations as they are. -/
def averaging
    (e : Estimator α) :
    Report α (Computation α × α) :=
  e.evaluation .notImplemented Method.average

/- What the average comes from: method, settings and data. -/
theorem averaging_of_some
    {e : Estimator α}
    {m : Method α}
    (hMethod : e.method = some m)
    {data : Observations α}
    (hData : e.observations = some data) :
    e.averaging = m.average e.settings data := by
  simp only [averaging, evaluation, hMethod, hData]

/- The local values from the observations as they are. -/
def localising
    (e : Estimator α) :
    Report α (Computation α × List α) :=
  e.evaluation .noSuchPart Method.locals

/- The estimator with a new last average. -/
def keeping
    (value : α)
    (e : Estimator α) :
    Estimator α :=
  { e with lastAverage := some value }

end Estimator

namespace Context

variable {α β : Type}

/- The context in which a computation has been recorded. -/
def recorded
    (computation : Computation α)
    (c : Context α) :
    Context α :=
  { c with
    shared :=
      { c.shared with
        summary := c.shared.summary.record computation } }

/-
  What is computed is recorded; what fails leaves the context
  as it was.
-/
theorem compute_eq
    (missing : Error α)
    (evaluate :
      Method α → Settings α → Observations α →
        Report α (Computation α × β))
    (c : Context α) :
    compute missing evaluate c =
      match c.estimator.evaluation missing evaluate with
      | ⟨notes, .ok (computation, result)⟩ =>
          (⟨notes, .ok result⟩, c.recorded computation)
      | ⟨notes, .error e⟩ => (⟨notes, .error e⟩, c) := by
  unfold compute Estimator.evaluation
  cases hMethod : c.estimator.method with
  | none =>
      rw [Transition.bind_error (method_of_none hMethod _)]
      rfl
  | some m =>
      rw [Transition.bind_of_read (method_of_some hMethod _),
        estimator?_bind]
      unfold Estimator.finalised
      cases c.estimator.observations with
      | none => rfl
      | some data =>
          dsimp only
          rw [Transition.ofExcept_ok_bind]
          rcases hRun : evaluate m c.estimator.settings data
            with ⟨notes, e | ⟨computation, result⟩⟩
          · rfl
          · have hReport :
                Transition.report
                    (⟨notes, .ok (computation, result)⟩ :
                      Report α (Computation α × β)) c =
                  (⟨notes, .ok (computation, result)⟩, c) :=
              rfl
            rw [Transition.bind_ok hReport]
            change
              ((⟨notes ++ [], .ok result⟩ : Report α β),
                c.recorded computation) = _
            rw [List.append_nil]

theorem result_compute
    (missing : Error α)
    (evaluate :
      Method α → Settings α → Observations α →
        Report α (Computation α × β))
    (c : Context α) :
    (compute missing evaluate c).1.result =
      (c.estimator.evaluation missing evaluate).result.map
        Prod.snd := by
  rw [compute_eq]
  rcases c.estimator.evaluation missing evaluate with
    ⟨notes, e | ⟨computation, result⟩⟩
  · rfl
  · rfl

theorem context_compute_of_ok
    {missing : Error α}
    {evaluate :
      Method α → Settings α → Observations α →
        Report α (Computation α × β)}
    {c : Context α}
    {computation : Computation α}
    {result : β}
    (hOk :
      (c.estimator.evaluation missing evaluate).result =
        .ok (computation, result)) :
    (compute missing evaluate c).2 =
      c.recorded computation := by
  rw [compute_eq]
  rcases hRun : c.estimator.evaluation missing evaluate with
    ⟨notes, outcome⟩
  rw [hRun] at hOk
  cases hOk
  rfl

variable [Scalar α]

/- The average that was computed is kept. -/
theorem plainAverage_eq
    (c : Context α) :
    plainAverage c =
      match c.estimator.averaging with
      | ⟨notes, .ok (computation, value)⟩ =>
          (⟨notes ++
              if c.estimator.settings.debug then [.calculated]
              else [],
            .ok value⟩,
            { c.recorded computation with
              estimator := c.estimator.keeping value })
      | ⟨notes, .error e⟩ => (⟨notes, .error e⟩, c) := by
  have hCompute := compute_eq .notImplemented Method.average c
  let timing : List (Note α) :=
    if c.estimator.settings.debug then [.calculated] else []
  unfold plainAverage Estimator.averaging
  rcases hRun :
      c.estimator.evaluation .notImplemented Method.average
    with ⟨notes, e | ⟨computation, value⟩⟩
  · rw [hRun] at hCompute
    rw [Transition.bind_error hCompute]
  · rw [hRun] at hCompute
    rw [Transition.bind_ok hCompute]
    change
      ((⟨notes ++ ([] ++ ([] ++ (timing ++ []))), .ok value⟩ :
          Report α α), _) = _
    rw [List.append_nil]
    rfl

theorem shared_plainAverage
    (c : Context α) :
    (plainAverage c).2.shared =
      (compute .notImplemented Method.average c).2.shared := by
  rw [plainAverage_eq, compute_eq]
  unfold Estimator.averaging
  rcases
      c.estimator.evaluation .notImplemented
        Method.average with
    ⟨notes, e | ⟨computation, value⟩⟩
  · rfl
  · rfl

/- The mean of the local values is kept. -/
theorem locals_eq
    (c : Context α) :
    locals c =
      match c.estimator.localising with
      | ⟨notes, .ok (computation, values)⟩ =>
          (⟨notes, .ok values⟩,
            { c.recorded computation with
              estimator :=
                c.estimator.keeping (Scalar.mean values) })
      | ⟨notes, .error e⟩ => (⟨notes, .error e⟩, c) := by
  have hCompute := compute_eq .noSuchPart Method.locals c
  unfold locals Estimator.localising
  rcases hRun :
      c.estimator.evaluation .noSuchPart Method.locals
    with ⟨notes, e | ⟨computation, values⟩⟩
  · rw [hRun] at hCompute
    rw [Transition.bind_error hCompute]
  · rw [hRun] at hCompute
    rw [Transition.bind_ok hCompute]
    change
      ((⟨notes ++ [], .ok values⟩ : Report α (List α)), _) = _
    rw [List.append_nil]
    rfl

theorem result_plainAverage_eq
    (c : Context α) :
    (plainAverage c).1.result =
      c.estimator.averaging.result.map Prod.snd := by
  rw [result_plainAverage, result_compute]
  rfl

theorem result_locals_eq
    (c : Context α) :
    (locals c).1.result =
      c.estimator.localising.result.map Prod.snd := by
  rw [locals_eq]
  rcases c.estimator.localising with
    ⟨notes, e | ⟨computation, values⟩⟩
  · rfl
  · rfl

/- What comes of an average that was computed is kept. -/
theorem context_plainAverage_of_ok
    {c : Context α}
    {computation : Computation α}
    {value : α}
    (hOk :
      c.estimator.averaging.result =
        .ok (computation, value)) :
    (plainAverage c).2 =
      ⟨c.estimator.keeping value,
        (c.recorded computation).shared⟩ := by
  rw [plainAverage_eq]
  rcases hRun : c.estimator.averaging with ⟨notes, outcome⟩
  rw [hRun] at hOk
  cases hOk
  rfl

theorem context_locals_of_ok
    {c : Context α}
    {computation : Computation α}
    {values : List α}
    (hOk :
      c.estimator.localising.result =
        .ok (computation, values)) :
    (locals c).2 =
      ⟨c.estimator.keeping (Scalar.mean values),
        (c.recorded computation).shared⟩ := by
  rw [locals_eq]
  rcases hRun : c.estimator.localising with ⟨notes, outcome⟩
  rw [hRun] at hOk
  cases hOk
  rfl

end Context

end NeighbourInfo

------------------------------------------------------------
-- Computing In A New Order
------------------------------------------------------------

namespace NeighbourInfo

namespace Context

variable {α β : Type}

/- Of an exchange only the change of what is shared stays. -/
theorem exchanging_eq
    {c : Context α}
    {data : Observations α}
    (hData : c.estimator.observations = some data)
    {operation : Transition (Context α) α β}
    (hLeaves :
      Transition.Leaves Context.estimator operation)
    (v : Variable)
    (t : Table α) :
    exchanging v (data.table v) t operation c =
      ((operation (c.withTable t v)).1,
        ⟨c.estimator,
          (operation (c.withTable t v)).2.shared⟩) := by
  have hBack := estimator_exchanging hData hLeaves v t
  rw [← hBack]
  rfl

variable [Scalar α] [Literal α]

/-
  An average in a new order fails and changes nothing, or is
  recorded and changes nothing else.
-/
theorem reorderedAverage_cases
    (chosen : Value α)
    (ordering : Value α)
    (c : Context α) :
    (∃ notes e,
      reorderedAverage chosen ordering c =
        (⟨notes, .error e⟩, c)) ∨
    ∃ notes computation value,
      reorderedAverage chosen ordering c =
        (⟨notes, .ok value⟩, c.recorded computation) := by
  cases hMethod : c.estimator.method with
  | none =>
      left
      unfold reorderedAverage
      rw [Transition.bind_error (method_of_none hMethod _)]
      exact ⟨_, _, rfl⟩
  | some m =>
      cases hData : c.estimator.observations with
      | none =>
          left
          have hFinalised := Estimator.finalised_of_none hData
          unfold reorderedAverage
          rw [Transition.bind_of_read
              (method_of_some hMethod _),
            estimator?_bind, hFinalised,
            Transition.ofExcept_error_bind]
          exact ⟨_, _, rfl⟩
      | some data =>
          rw [reorderedAverage_eq hMethod hData]
          cases Variable.ofValue chosen with
          | error e => exact .inl ⟨_, _, rfl⟩
          | ok v =>
              dsimp only
              cases reorder (data.table v) ordering with
              | error e => exact .inl ⟨_, _, rfl⟩
              | ok t =>
                  dsimp only
                  rw [exchanging_eq hData (leaves_compute _ _),
                    compute_eq]
                  rcases
                      (c.withTable t v).estimator.evaluation
                        .notImplemented Method.average with
                    ⟨notes, e | ⟨computation, value⟩⟩
                  · exact .inl ⟨_, _, rfl⟩
                  · exact .inr ⟨_, computation, _, rfl⟩

end Context

end NeighbourInfo

------------------------------------------------------------
-- Surrogates
------------------------------------------------------------

namespace NeighbourInfo

namespace Context

variable {α : Type} [Scalar α] [Literal α]

/-
  What is looked at before anything is computed: that there
  are observations, the variable, and the orderings, which
  may have to be drawn.
-/
def chosenOrderings
    (chosen : Value α)
    (count : Value α)
    (orderings : Value α) :
    Transition (Context α) α (Value α) := do
  let e ← estimator?
  let data ← Transition.ofExcept e.finalised
  let _ ← Transition.ofExcept (Variable.ofValue chosen)
  chooseOrderings data.size count orderings

/- The average on each of the surrogates, one by one. -/
def surrogates
    (chosen : Value α)
    (orderings : Value α)
    (actual : α) :
    Transition (Context α) α (Distribution α) :=
  match orderings.items? with
  | some items => do
      let values ← items.mapM (average chosen)
      return ⟨Tensor.ofList values, actual⟩
  | none => Transition.ofExcept (.error .wrongKind)

/- First the orderings, then the average, then surrogates. -/
theorem significance_eq
    (chosen : Value α)
    (count : Value α)
    (orderings : Value α) :
    significance chosen count orderings =
      (do
        let orderings ← chosenOrderings chosen count orderings
        let actual ← plainAverage
        surrogates chosen orderings actual) := by
  unfold significance chosenOrderings surrogates
  simp only [bind_assoc]
  rfl

end Context

end NeighbourInfo

------------------------------------------------------------
-- Commands
------------------------------------------------------------

namespace NeighbourInfo

namespace Command

variable {α : Type} [Scalar α] [Literal α]

theorem isAtomic_initialise
    (dims : Value α) :
    Transition.IsAtomic (initialise dims).run := by
  unfold run
  exact
    (Context.isAtomic_updateEstimator _).map
      fun _ => Answer.done

/- Some commands only look at the estimator. -/
theorem leaves_get
    (name : Value α) :
    Transition.Leaves id (get name).run := by
  unfold run
  refine Transition.Leaves.bind (fun c => rfl) fun e => ?_
  refine (Transition.leaves_ofExcept _).bind fun value => ?_
  exact Transition.leaves_pure _

theorem leaves_localsOf
    (x : Value α)
    (y : Value α)
    (z : Value α) :
    Transition.Leaves id (localsOf x y z).run := by
  unfold run Context.localsOfNew
  refine Transition.Leaves.bind ?_ fun values =>
    Transition.leaves_pure _
  exact
    (Context.leaves_method _).bind fun m =>
      Transition.leaves_ofExcept _

end Command

end NeighbourInfo
