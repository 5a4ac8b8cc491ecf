import NeighbourInfo.Session.Basic
import NeighbourInfo.Proofs.Transition

/-
  What a session keeps true, request by request.

  Key definitions include:
    * `NeighbourInfo.Session.Holds`
    * `NeighbourInfo.Session.exchanges`

  A command changes the estimator that it is given to and what
  is shared, and leaves all other estimators alone.  What is
  kept true of the two by every command is kept true of all
  estimators by every request, and so by any run.

  This is proven by:
    * `NeighbourInfo.Session.keeps_onEstimator`
    * `NeighbourInfo.Session.keeps_step`
    * `NeighbourInfo.Session.keeps_run`
    * `NeighbourInfo.Session.estimator?_step`
-/

------------------------------------------------------------
-- Estimators By Their Names
------------------------------------------------------------

namespace NeighbourInfo

namespace Session

variable {α β : Type}

/- Other names stand for what they stood for before. -/
theorem estimator?_withEstimator_of_ne
    (s : Session α)
    {id other : String}
    (hOther : other ≠ id)
    (e : Estimator α) :
    (s.withEstimator id e).estimator? other =
      s.estimator? other := by
  have hNe : (other == id) = false := beq_false_of_ne hOther
  unfold estimator? withEstimator
  rw [List.lookup_cons, hNe]
  dsimp only
  induction s.estimators with
  | nil => rfl
  | cons entry entries ih =>
      rcases entry with ⟨name, e'⟩
      by_cases hName : name = id
      · have hSkip : (other == name) = false := by
          rw [hName, hNe]
        rw [List.filter_cons_of_neg (by simp [hName]), ih,
          List.lookup_cons, hSkip]
      · rw [List.filter_cons_of_pos (by simpa using hName),
          List.lookup_cons, List.lookup_cons, ih]

theorem onShared_eq
    (t : Transition (Shared α) α β)
    (s : Session α) :
    onShared t s =
      ((t s.shared).1,
        { s with shared := (t s.shared).2 }) := rfl

theorem onEstimator_of_some
    {s : Session α}
    {id : String}
    {e : Estimator α}
    (hFound : s.estimator? id = some e)
    (t : Transition (Context α) α β) :
    onEstimator id t s =
      ((t ⟨e, s.shared⟩).1,
        { s with
          shared := (t ⟨e, s.shared⟩).2.shared }.withEstimator
          id (t ⟨e, s.shared⟩).2.estimator) := by
  unfold onEstimator
  rw [hFound]

theorem onEstimator_of_none
    {s : Session α}
    {id : String}
    (hMissing : s.estimator? id = none)
    (t : Transition (Context α) α β) :
    onEstimator id t s = (⟨[], .error .noSuchPart⟩, s) := by
  unfold onEstimator
  rw [hMissing]
  rfl

end Session

end NeighbourInfo

------------------------------------------------------------
-- Invariants Of Sessions
------------------------------------------------------------

namespace NeighbourInfo

namespace Session

variable {α β : Type}

/- Something is true of what is shared and of each estimator. -/
def Holds
    (ofShared : Shared α → Prop)
    (ofEstimator : Estimator α → Prop)
    (s : Session α) :
    Prop :=
  ofShared s.shared ∧
    ∀ id e, s.estimator? id = some e → ofEstimator e

/- A session begins without estimators. -/
theorem holds_initial
    {ofShared : Shared α → Prop}
    (ofEstimator : Estimator α → Prop)
    {shared : Shared α}
    (hShared : ofShared shared) :
    (initial shared).Holds ofShared ofEstimator := by
  refine ⟨hShared, fun id e hFound => ?_⟩
  have hNone : (initial shared).estimator? id = none := rfl
  exact absurd (hFound.symm.trans hNone) (by simp)

variable {ofShared : Shared α → Prop}
variable {ofEstimator : Estimator α → Prop}

theorem Holds.withEstimator
    {s : Session α}
    (hHolds : s.Holds ofShared ofEstimator)
    {e : Estimator α}
    (hNew : ofEstimator e)
    (id : String) :
    (s.withEstimator id e).Holds ofShared ofEstimator := by
  refine ⟨hHolds.1, ?_⟩
  intro other found hFound
  by_cases hSame : other = id
  · rw [hSame, estimator?_withEstimator] at hFound
    cases hFound
    exact hNew
  · rw [estimator?_withEstimator_of_ne s hSame] at hFound
    exact hHolds.2 other found hFound

/- What holds of the two parts of a context is lifted. -/
theorem keeps_onEstimator
    {t : Transition (Context α) α β}
    (hKeeps :
      Transition.Keeps
        (fun c =>
          ofShared c.shared ∧ ofEstimator c.estimator) t)
    (id : String) :
    Transition.Keeps (Holds ofShared ofEstimator)
      (onEstimator id t) := by
  intro s hHolds
  cases hFound : s.estimator? id with
  | none =>
      rw [onEstimator_of_none hFound]
      exact hHolds
  | some e =>
      rcases
          hKeeps ⟨e, s.shared⟩
            ⟨hHolds.1, hHolds.2 id e hFound⟩ with
        ⟨hShared, hEstimator⟩
      have hBetween :
          { s with
            shared :=
              (t ⟨e, s.shared⟩).2.shared }.Holds
            ofShared ofEstimator :=
        ⟨hShared, hHolds.2⟩
      rw [onEstimator_of_some hFound]
      exact hBetween.withEstimator hEstimator id

theorem keeps_onShared
    {t : Transition (Shared α) α β}
    (hKeeps : Transition.Keeps ofShared t) :
    Transition.Keeps (Holds ofShared ofEstimator)
      (onShared t) :=
  fun s hHolds => ⟨hKeeps s.shared hHolds.1, hHolds.2⟩

end Session

end NeighbourInfo

------------------------------------------------------------
-- Requests
------------------------------------------------------------

namespace NeighbourInfo

namespace Shared

variable {α : Type} [Scalar α]

/- Only the default of the threads can be changed by this. -/
theorem keeps_chooseThreads
    {inv : Shared α → Prop}
    (hThreads :
      ∀ choice processors threads,
        ThreadDefault.choose (α := α) choice processors =
            .ok (some threads) →
          ∀ s, inv s → inv { s with threads := threads })
    (choice : Value α)
    (processors : Value α) :
    Transition.Keeps inv (chooseThreads choice processors) := by
  unfold chooseThreads
  intro s hInv
  cases hChoice : ThreadDefault.choose choice processors with
  | error e =>
      rw [Transition.ofExcept_error_bind]
      exact hInv
  | ok chosen =>
      rw [Transition.ofExcept_ok_bind]
      cases chosen with
      | none => exact hInv
      | some threads =>
          exact hThreads choice processors threads hChoice s hInv

end Shared

namespace Session

variable {α : Type} [Scalar α] [Literal α]
variable {ofShared : Shared α → Prop}
variable {ofEstimator : Estimator α → Prop}

/-
  A request keeps what holds of all estimators if a command
  does, if it holds of new estimators, and if the defaults may
  be changed as the request asks.
-/
theorem keeps_step
    (hCreate :
      ∀ method shared, ofShared shared →
        ofEstimator
          (Estimator.create method shared.newSettings))
    (hThreads :
      ∀ choice processors threads,
        ThreadDefault.choose (α := α) choice processors =
            .ok (some threads) →
          ∀ shared, ofShared shared →
            ofShared { shared with threads := threads })
    (request : Request α)
    (hDefault :
      ∀ k, request = .setDefaultK k →
        ∀ shared, ofShared shared →
          ofShared { shared with defaultK := k })
    (hCommand :
      ∀ id command, request = .command id command →
        Transition.Keeps
          (fun c =>
            ofShared c.shared ∧ ofEstimator c.estimator)
          command.run) :
    Transition.Keeps (Holds ofShared ofEstimator)
      (step request) := by
  cases request with
  | create id method =>
      intro s hHolds
      exact hHolds.withEstimator (hCreate method _ hHolds.1) id
  | command id command =>
      exact keeps_onEstimator (hCommand id command rfl) id
  | chooseThreads choice processors =>
      refine Transition.Keeps.bind
        (keeps_onShared
          (Shared.keeps_chooseThreads hThreads _ _)) fun _ => ?_
      exact fun s hHolds => hHolds
  | setDefaultK k =>
      intro s hHolds
      exact ⟨hDefault k rfl _ hHolds.1, hHolds.2⟩
  | showSummary verbosity =>
      refine Transition.Keeps.bind (keeps_onShared ?_)
        fun _ => Transition.keeps_pure _
      unfold Shared.showSummary
      refine (Transition.keeps_report _).bind fun isShown => ?_
      exact fun s hInv => hInv

theorem step_command
    (id : String)
    (command : Command α) :
    step (.command id command) = onEstimator id command.run :=
  rfl

/- The requests of a run, each with what was answered. -/
def exchanges
    (s : Session α)
    (requests : List (Request α)) :
    List (Request α × Report α (Answer α)) :=
  requests.zip (s.run requests).1

/- A run goes on from what its first request left. -/
theorem run_cons
    (request : Request α)
    (requests : List (Request α))
    (s : Session α) :
    s.run (request :: requests) =
      ((step request s).1 ::
          ((step request s).2.run requests).1,
        ((step request s).2.run requests).2) := rfl

theorem exchanges_cons
    (request : Request α)
    (requests : List (Request α))
    (s : Session α) :
    s.exchanges (request :: requests) =
      (request, (step request s).1) ::
        (step request s).2.exchanges requests := rfl

/- What every request of a run keeps is kept by the run. -/
theorem keeps_run
    {inv : Session α → Prop}
    {requests : List (Request α)}
    (hStep :
      ∀ request ∈ requests,
        Transition.Keeps inv (step request))
    {s : Session α}
    (hInv : inv s) :
    inv (s.run requests).2 := by
  induction requests generalizing s with
  | nil => exact hInv
  | cons request requests ih =>
      rw [run_cons]
      refine ih (fun r hR => ?_) ?_
      · exact hStep r (List.mem_cons_of_mem _ hR)
      · exact hStep request List.mem_cons_self s hInv

end Session

end NeighbourInfo

------------------------------------------------------------
-- Requests And One Estimator
------------------------------------------------------------

namespace NeighbourInfo

namespace Session

variable {α β : Type}

theorem leaves_onShared
    (t : Transition (Shared α) α β) :
    Transition.Leaves Session.estimators (onShared t) :=
  fun _ => rfl

theorem isAtomic_onShared
    {t : Transition (Shared α) α β}
    (hAtomic : Transition.IsAtomic t) :
    Transition.IsAtomic (onShared t) := by
  intro s e hError
  rw [onShared_eq] at hError ⊢
  rw [hAtomic s.shared e hError]

variable [Scalar α] [Literal α]

/-
  What a request makes of the estimator of a name: it may be a
  new one, or be given a command, or be left alone.
-/
theorem estimator?_step
    (request : Request α)
    (s : Session α)
    (id : String) :
    (step request s).2.estimator? id =
      match request with
      | .create other method =>
          if id = other then
            some (.create method s.shared.newSettings)
          else s.estimator? id
      | .command other command =>
          if id = other then
            (s.estimator? other).map fun e =>
              (command.run ⟨e, s.shared⟩).2.estimator
          else s.estimator? id
      | _ => s.estimator? id := by
  cases request with
  | create other method =>
      change
        (s.withEstimator other
          (.create method s.shared.newSettings)).estimator?
          id = _
      dsimp only
      by_cases hSame : id = other
      · rw [hSame, estimator?_withEstimator, if_pos rfl]
      · rw [if_neg hSame, estimator?_withEstimator_of_ne s hSame]
  | command other command =>
      rw [step_command]
      dsimp only
      cases hFound : s.estimator? other with
      | none =>
          rw [onEstimator_of_none hFound]
          by_cases hSame : id = other
          · rw [if_pos hSame, hSame, hFound]
            rfl
          · rw [if_neg hSame]
      | some e =>
          rw [onEstimator_of_some hFound]
          by_cases hSame : id = other
          · rw [if_pos hSame, hSame, estimator?_withEstimator]
            rfl
          · rw [if_neg hSame,
              estimator?_withEstimator_of_ne _ hSame]
            rfl
  | chooseThreads choice processors =>
      have hLeaves :
          Transition.Leaves Session.estimators
            (step (.chooseThreads choice processors :
              Request α)) :=
        (leaves_onShared _).bind fun _ _ => rfl
      unfold estimator?
      rw [hLeaves s]
  | setDefaultK k => rfl
  | showSummary verbosity =>
      have hLeaves :
          Transition.Leaves Session.estimators
            (step (.showSummary verbosity : Request α)) :=
        (leaves_onShared _).bind fun _ =>
          Transition.leaves_pure _
      unfold estimator?
      rw [hLeaves s]

end Session

end NeighbourInfo
