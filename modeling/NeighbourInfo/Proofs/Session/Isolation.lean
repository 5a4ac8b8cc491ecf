import NeighbourInfo.Proofs.Session.Dependence

/-
  What the estimators of a session have to do with each other.

  Key definitions include:
    * `NeighbourInfo.Request.target?`
    * `NeighbourInfo.Request.CanDraw`
    * `NeighbourInfo.Session.seen`
    * `NeighbourInfo.Session.without`
    * `NeighbourInfo.Session.DrawsNone`

  Requests for other estimators change nothing that a command
  sees, as long as they draw nothing from the supply of chance.
  They can be left out of a session, and the defaults may be
  what they like once the estimator has been created.

  This is proven by:
    * `NeighbourInfo.Session.dependsOn_step`
    * `NeighbourInfo.Session.chance_step`
    * `NeighbourInfo.Session.view_run_without`
    * `NeighbourInfo.Session.standing_run_without`
    * `NeighbourInfo.Session.seen_run_without`
    * `NeighbourInfo.Session.step_without_others`
-/

------------------------------------------------------------
-- What Requests Change
------------------------------------------------------------

namespace NeighbourInfo

variable {α : Type}

namespace Request

/- The name of the estimator that a request is for. -/
def target? :
    Request α → Option String
  | .create id _ => some id
  | .command id _ => some id
  | _ => none

/- The request may change a default of new estimators. -/
def changesDefault :
    Request α → Bool
  | .chooseThreads _ _ => true
  | .setDefaultK _ => true
  | _ => false

/- The request may draw from the supply of chance. -/
def CanDraw
    (s : Session α)
    (request : Request α) :
    Prop :=
  ∃ id command e,
    request = .command id command ∧
      s.estimator? id = some e ∧ command.CanDraw e

theorem target?_of_changesDefault
    {request : Request α}
    (hDefault : request.changesDefault = true) :
    request.target? = none := by
  cases request with
  | create id method => cases hDefault
  | command id command => cases hDefault
  | chooseThreads choice processors => rfl
  | setDefaultK k => rfl
  | showSummary verbosity => rfl

end Request

/- The shared state except for the last computation. -/
def Shared.standing
    (s : Shared α) :
    (Nat × Value α × ThreadDefault) × Chance α :=
  (s.defaults, s.chance)

/- Nothing else can have changed if the defaults have not. -/
theorem Shared.eq_of_defaults
    {s s' : Shared α}
    (hSame : s.defaults = s'.defaults) :
    s' =
      { s with
        summary := s'.summary
        chance := s'.chance } := by
  rcases s with ⟨processors, k, threads, chance, summary⟩
  rcases s' with
    ⟨processors', k', threads', chance', summary'⟩
  cases hSame
  rfl

theorem Shared.eq_of_standing
    {s s' : Shared α}
    (hSame : s.standing = s'.standing) :
    s' = { s with summary := s'.summary } := by
  rcases Prod.mk.inj hSame with ⟨hDefaults, hChance⟩
  rw [hChance]
  exact eq_of_defaults hDefaults

namespace Session

/- What the commands to one estimator see of a session. -/
def seen
    (id : String)
    (s : Session α) :
    Option (Estimator α) × Chance α × Nat :=
  (s.estimator? id, s.shared.chance, s.shared.processors)

theorem seen_eq_iff
    {id : String}
    {s s' : Session α} :
    s.seen id = s'.seen id ↔
      s.estimator? id = s'.estimator? id ∧
        s.shared.chance = s'.shared.chance ∧
        s.shared.processors = s'.shared.processors := by
  simp [seen, Prod.ext_iff]

variable [Scalar α] [Literal α]

/- What concerns no estimator draws nothing. -/
theorem shared_step_of_none
    {request : Request α}
    (hNone : request.target? = none)
    (s : Session α) :
    (step request s).2.shared.chance = s.shared.chance ∧
      (step request s).2.shared.processors =
        s.shared.processors := by
  have hKeeps :
      Transition.Keeps
        (Holds
          (fun shared =>
            shared.chance = s.shared.chance ∧
              shared.processors = s.shared.processors)
          fun _ => True)
        (step request) := by
    apply keeps_step
    · exact fun _ _ _ => trivial
    · exact fun _ _ _ _ _ hSame => hSame
    · exact fun _ _ _ hSame => hSame
    · intro id command hCommand
      rw [hCommand] at hNone
      cases hNone
  exact (hKeeps s ⟨⟨rfl, rfl⟩, fun _ _ _ => trivial⟩).1

/- What is for one estimator leaves the others alone. -/
theorem estimator?_step_of_ne
    {request : Request α}
    {id : String}
    (hOther : request.target? ≠ some id)
    (s : Session α) :
    (step request s).2.estimator? id = s.estimator? id := by
  rw [estimator?_step]
  cases request with
  | create other method =>
      exact if_neg fun hSame : id = other =>
        hOther (congrArg some hSame.symm)
  | command other command =>
      exact if_neg fun hSame : id = other =>
        hOther (congrArg some hSame.symm)
  | chooseThreads choice processors => rfl
  | setDefaultK k => rfl
  | showSummary verbosity => rfl

/- What is for an estimator leaves the defaults alone. -/
theorem defaults_step_of_isSome
    {request : Request α}
    (hSome : request.target?.isSome = true)
    (s : Session α) :
    (step request s).2.shared.defaults = s.shared.defaults := by
  cases request with
  | create id method => rfl
  | command id command =>
      rw [step_command]
      cases hFound : s.estimator? id with
      | none => rw [onEstimator_of_none hFound]
      | some e =>
          rw [onEstimator_of_some hFound]
          exact command.leaves_defaults ⟨e, s.shared⟩
  | chooseThreads choice processors => cases hSome
  | setDefaultK k => cases hSome
  | showSummary verbosity => cases hSome

/- A request that cannot draw does not draw. -/
theorem chance_step
    {request : Request α}
    {s : Session α}
    (hSilent : ¬ request.CanDraw s) :
    (step request s).2.shared.chance = s.shared.chance := by
  cases request with
  | create id method => rfl
  | command id command =>
      rw [step_command]
      cases hFound : s.estimator? id with
      | none => rw [onEstimator_of_none hFound]
      | some e =>
          rw [onEstimator_of_some hFound]
          refine Command.supply_run (c := ⟨e, s.shared⟩) ?_
          exact fun hDraws =>
            hSilent ⟨id, command, e, rfl, hFound, hDraws⟩
  | chooseThreads choice processors =>
      exact (shared_step_of_none rfl s).1
  | setDefaultK k => rfl
  | showSummary verbosity =>
      exact (shared_step_of_none rfl s).1

end Session

end NeighbourInfo

------------------------------------------------------------
-- What Requests Depend On
------------------------------------------------------------

namespace NeighbourInfo

variable {α β τ : Type}

namespace Shared

variable [Scalar α]

theorem dependsOn_chooseThreads
    (choice : Value α)
    (processors : Value α) :
    Transition.DependsOn standing
      (chooseThreads choice processors) := by
  unfold chooseThreads
  refine (Transition.dependsOn_ofExcept _).bind fun chosen => ?_
  cases chosen with
  | some threads =>
      refine Transition.dependsOn_change fun s s' hSame => ?_
      rw [eq_of_standing hSame]
      rfl
  | none =>
      refine Transition.dependsOn_bind_current ?_ fun s =>
        Transition.dependsOn_report _
      intro s s' hSame
      rw [eq_of_standing hSame]
      rfl

end Shared

namespace Session

theorem dependsOn_onShared
    {view : Shared α → τ}
    {t : Transition (Shared α) α β}
    (hDepends : Transition.DependsOn view t) :
    Transition.DependsOn (fun s => view s.shared)
      (onShared t) :=
  fun s s' hSame => hDepends s.shared s'.shared hSame

/- A command sees what its estimator may see of a session. -/
theorem dependsOn_onEstimator
    {t : Transition (Context α) α β}
    (hDepends : Transition.DependsOn Context.seen t)
    (id : String) :
    Transition.DependsOn (seen id) (onEstimator id t) := by
  intro s s' hSame
  rcases seen_eq_iff.mp hSame with
    ⟨hEstimator, hChance, hProcessors⟩
  cases hFound : s'.estimator? id with
  | none =>
      rw [onEstimator_of_none (hEstimator.trans hFound),
        onEstimator_of_none hFound]
      exact ⟨rfl, hSame⟩
  | some e =>
      rw [onEstimator_of_some (hEstimator.trans hFound),
        onEstimator_of_some hFound]
      have hSeen :
          Context.seen ⟨e, s.shared⟩ =
            Context.seen ⟨e, s'.shared⟩ :=
        Context.seen_eq_iff.mpr ⟨rfl, hChance, hProcessors⟩
      rcases hDepends _ _ hSeen with ⟨hReport, hAfter⟩
      rcases Context.seen_eq_iff.mp hAfter with
        ⟨hEstimator, hChance, hProcessors⟩
      refine ⟨hReport, seen_eq_iff.mpr ⟨?_, hChance, ?_⟩⟩
      · rw [estimator?_withEstimator, estimator?_withEstimator,
          hEstimator]
      · exact hProcessors

variable [Scalar α] [Literal α]

/- A new estimator takes the defaults as they stand. -/
theorem seen_create
    {s s' : Session α}
    (hSame : s.shared.standing = s'.shared.standing)
    (id : String)
    (method : Option (Method α)) :
    (step (.create id method) s).2.seen id =
      (step (.create id method) s').2.seen id := by
  have hNew (s : Session α) :
      (step (.create id method) s).2.seen id =
        (some (.create method s.shared.newSettings),
          s.shared.chance, s.shared.processors) :=
    congrArg (·, s.shared.chance, s.shared.processors)
      (estimator?_withEstimator ..)
  rw [hNew, hNew, Shared.eq_of_standing hSame]
  rfl

/- Requests for no estimator change the defaults alike. -/
theorem standing_step_of_none
    {request : Request α}
    (hNone : request.target? = none)
    {s s' : Session α}
    (hSame : s.shared.standing = s'.shared.standing) :
    (step request s).2.shared.standing =
      (step request s').2.shared.standing := by
  cases request with
  | create id method => cases hNone
  | command id command => cases hNone
  | chooseThreads choice processors =>
      have hDepends :
          Transition.DependsOn
            (fun s : Session α => s.shared.standing)
            (step (.chooseThreads choice processors)) := by
        refine
          (dependsOn_onShared
            (Shared.dependsOn_chooseThreads _ _)).bind
            fun _ => ?_
        refine Transition.dependsOn_bind_current ?_ fun s =>
          Transition.dependsOn_report _
        intro s s' hSame
        rw [Shared.eq_of_standing hSame]
        rfl
      exact (hDepends s s' hSame).2
  | setDefaultK k =>
      show Shared.standing { s.shared with defaultK := k } =
        Shared.standing { s'.shared with defaultK := k }
      rw [Shared.eq_of_standing hSame]
      rfl
  | showSummary verbosity =>
      have hLeaves :
          Transition.Leaves Session.shared
            (step (.showSummary verbosity : Request α)) := by
        refine Transition.Leaves.bind ?_ fun _ =>
          Transition.leaves_pure _
        exact fun s =>
          Shared.leaves_showSummary verbosity s.shared
      rw [show _ = s.shared from hLeaves s,
        show _ = s'.shared from hLeaves s', hSame]

end Session

end NeighbourInfo

------------------------------------------------------------
-- Requests That Are Left Out
------------------------------------------------------------

namespace NeighbourInfo

namespace Session

variable {α τ : Type}

/- What is left of some requests without those singled out. -/
def without
    (isDeleted : Request α → Bool)
    (requests : List (Request α)) :
    List (Request α) :=
  requests.filter fun request => !isDeleted request

variable [Scalar α] [Literal α]

/-
  None of the requests of a run that are singled out draws
  from the supply of chance when its turn comes.
-/
def DrawsNone
    (isDeleted : Request α → Bool) :
    Session α → List (Request α) → Prop
  | _, [] => True
  | s, request :: requests =>
      (isDeleted request = true →
        (step request s).2.shared.chance = s.shared.chance) ∧
      DrawsNone isDeleted (step request s).2 requests

/- A run draws nothing by commands that cannot draw. -/
theorem drawsNone_of_forall
    {isDeleted : Request α → Bool}
    {requests : List (Request α)}
    (hNever :
      ∀ id command, .command id command ∈ requests →
        isDeleted (.command id command) = true →
          ∀ e, ¬ command.CanDraw e)
    (s : Session α) :
    s.DrawsNone isDeleted requests := by
  induction requests generalizing s with
  | nil => exact trivial
  | cons request requests ih =>
      refine ⟨fun hDeleted => chance_step ?_, ih ?_ _⟩
      · rintro ⟨id, command, e, rfl, -, hDraws⟩
        exact
          hNever id command List.mem_cons_self hDeleted e hDraws
      · intro id command hMem
        exact hNever id command (List.mem_cons_of_mem _ hMem)

/- A run of several parts goes on from part to part. -/
theorem state_run_append
    (first : List (Request α))
    (second : List (Request α))
    (s : Session α) :
    (s.run (first ++ second)).2 =
      ((s.run first).2.run second).2 := by
  induction first generalizing s with
  | nil => rfl
  | cons request first ih =>
      rw [List.cons_append, run_cons, run_cons]
      exact ih (step request s).2

/-
  Two runs go on looking the same in some view, where the
  second one leaves out some requests.  A request that stays
  has to do the same to states that look the same, and one
  that goes has to change nothing in view unless it draws.
-/
theorem view_run_without
    (view : Session α → τ)
    {isDeleted : Request α → Bool}
    {requests : List (Request α)}
    (hKept :
      ∀ request ∈ requests, isDeleted request = false →
        ∀ s s', view s = view s' →
          view (step request s).2 = view (step request s').2)
    (hGone :
      ∀ request ∈ requests, isDeleted request = true →
        ∀ s,
          (step request s).2.shared.chance = s.shared.chance →
            view (step request s).2 = view s)
    {s s' : Session α}
    (hDraws : s.DrawsNone isDeleted requests)
    (hSame : view s = view s') :
    view (s.run requests).2 =
      view (s'.run (without isDeleted requests)).2 := by
  induction requests generalizing s s' with
  | nil => exact hSame
  | cons request requests ih =>
      rcases hDraws with ⟨hDraw, hDraws⟩
      have hFirst : request ∈ request :: requests :=
        List.mem_cons_self
      have hRest {t : Session α}
          (hSeen : view (step request s).2 = view t) :
          view ((step request s).2.run requests).2 =
            view (t.run (without isDeleted requests)).2 :=
        ih (fun r hR => hKept r (List.mem_cons_of_mem _ hR))
          (fun r hR => hGone r (List.mem_cons_of_mem _ hR))
          hDraws hSeen
      rw [run_cons]
      unfold without
      cases hDeleted : isDeleted request with
      | true =>
          rw [List.filter_cons_of_neg (by simp [hDeleted])]
          have hStep :=
            hGone request hFirst hDeleted s (hDraw hDeleted)
          exact hRest (hStep.trans hSame)
      | false =>
          rw [List.filter_cons_of_pos (by simp [hDeleted]),
            run_cons]
          exact hRest (hKept request hFirst hDeleted s s' hSame)

end Session

end NeighbourInfo

------------------------------------------------------------
-- Sessions Without Other Estimators
------------------------------------------------------------

namespace NeighbourInfo

namespace Session

variable {α : Type} [Scalar α] [Literal α]

/-
  The defaults come to be the same without all estimators, as
  long as these draw nothing.
-/
theorem standing_run_without
    {requests : List (Request α)}
    {s : Session α}
    (hDraws :
      s.DrawsNone (fun r => r.target?.isSome) requests) :
    (s.run requests).2.shared.standing =
      (s.run
        (without (fun r => r.target?.isSome)
          requests)).2.shared.standing := by
  refine
    view_run_without (fun s => s.shared.standing) ?_ ?_ hDraws
      rfl
  · intro request _ hKept s s' hSame
    have hNone : request.target? = none := by
      simpa using hKept
    exact standing_step_of_none hNone hSame
  · intro request _ hGone s hChance
    exact
      Prod.ext_iff.mpr
        ⟨defaults_step_of_isSome hGone s, hChance⟩

/- A command sees what its estimator may see of a session. -/
theorem dependsOn_step
    (id : String)
    (command : Command α) :
    Transition.DependsOn (seen id)
      (step (.command id command)) :=
  dependsOn_onEstimator command.dependsOn_run id

/-
  Nothing that an estimator sees is changed by requests that
  are not for it, as long as they draw nothing.
-/
theorem seen_step_of_ne
    {request : Request α}
    {id : String}
    (hOther : request.target? ≠ some id)
    {s : Session α}
    (hChance :
      (step request s).2.shared.chance = s.shared.chance) :
    (step request s).2.seen id = s.seen id := by
  refine
    seen_eq_iff.mpr
      ⟨estimator?_step_of_ne hOther s, hChance, ?_⟩
  cases hTarget : request.target? with
  | none => exact (shared_step_of_none hTarget s).2
  | some other =>
      have hSome : request.target?.isSome = true := by
        rw [hTarget]
        rfl
      exact congrArg Prod.fst (defaults_step_of_isSome hSome s)

/- No estimator is ever taken away from its name. -/
theorem isSome_estimator?_run
    {id : String}
    {s : Session α}
    (hSome : (s.estimator? id).isSome = true)
    (requests : List (Request α)) :
    ((s.run requests).2.estimator? id).isSome = true := by
  have hStep :
      ∀ request ∈ requests,
        Transition.Keeps
          (fun s : Session α => (s.estimator? id).isSome = true)
          (step request) := by
    intro request _ s hSome
    show ((step request s).2.estimator? id).isSome = true
    by_cases hOwn : request.target? = some id
    · rw [estimator?_step]
      cases request with
      | create other method =>
          cases hOwn
          simp
      | command other command =>
          cases hOwn
          simpa using hSome
      | chooseThreads choice processors => cases hOwn
      | setDefaultK k => cases hOwn
      | showSummary verbosity => cases hOwn
    · rw [estimator?_step_of_ne hOwn]
      exact hSome
  exact keeps_run hStep hSome

/-
  While a name stands for an estimator, all that is not for it
  can be left out.
-/
theorem seen_run_without
    {id : String}
    {isDeleted : Request α → Bool}
    (hIgnored :
      ∀ request, isDeleted request = true →
        request.target? ≠ some id)
    (hOthers :
      ∀ request other, request.target? = some other →
        other ≠ id → isDeleted request = true)
    {requests : List (Request α)}
    (hHeld : ∀ method, .create id method ∉ requests)
    {s s' : Session α}
    (hDraws : s.DrawsNone isDeleted requests)
    (hSame : s.seen id = s'.seen id) :
    (s.run requests).2.seen id =
      (s'.run (without isDeleted requests)).2.seen id := by
  refine view_run_without (seen id) ?_ ?_ hDraws hSame
  · intro request hRequest hKept s s' hSame
    cases hTarget : request.target? with
    | none =>
        have hOther : request.target? ≠ some id := by
          simp [hTarget]
        rw [seen_step_of_ne hOther
            (shared_step_of_none hTarget s).1,
          seen_step_of_ne hOther
            (shared_step_of_none hTarget s').1, hSame]
    | some other =>
        by_cases hOwn : other = id
        · subst hOwn
          cases request with
          | create other method =>
              cases hTarget
              exact absurd hRequest (hHeld method)
          | command other command =>
              cases hTarget
              exact (dependsOn_step _ command s s' hSame).2
          | chooseThreads choice processors => cases hTarget
          | setDefaultK k => cases hTarget
          | showSummary verbosity => cases hTarget
        · rw [hOthers request other hTarget hOwn] at hKept
          cases hKept
  · intro request _ hGone s hChance
    exact seen_step_of_ne (hIgnored request hGone) hChance

/-
  Estimators do not get in each other's way.  Requests for the
  other estimators can be deleted from a session, as long as
  none of them draws from the supply of chance, and along with
  them the changes of the defaults since an estimator has been
  created.  A command to the estimator is answered as before,
  with the same notes, and makes the same of the estimator.

  Of what is shared, requests for an estimator change the last
  computation and the supply of chance, and the latter only if
  noise is on or permutations are not given.  A new estimator
  takes the defaults; after that it depends on nothing but the
  supply of chance and the number of processors.
-/
theorem step_without_others :
    (∀ (start : Session α) (before between : List (Request α))
        (id : String) (method : Option (Method α))
        (alsoDefaults : Bool),
      let isBefore (r : Request α) := r.target?.isSome
      let isBetween (r : Request α) :=
        r.target?.any (· != id) ||
          (alsoDefaults && r.changesDefault)
      let create : Request α := .create id method
      let created := (step create (start.run before).2).2
      start.DrawsNone isBefore before →
      created.DrawsNone isBetween between →
      (∀ other, .create id other ∉ between) →
      let s := (start.run (before ++ create :: between)).2
      let s' :=
        (start.run
          (without isBefore before ++
            create :: without isBetween between)).2
      (∃ e,
        s.estimator? id = some e ∧
          s'.estimator? id = some e) ∧
      ∀ command,
        let ask := step (.command id command)
        (ask s).1 = (ask s').1 ∧
          (ask s).2.estimator? id =
            (ask s').2.estimator? id) ∧
    (∀ (s : Session α) (request : Request α),
      request.target?.isSome = true →
      let after := (step request s).2
      after.shared =
          { s.shared with
            summary := after.shared.summary
            chance := after.shared.chance } ∧
        (¬ request.CanDraw s →
          after.shared.chance = s.shared.chance) ∧
        ∀ id, request.target? ≠ some id →
          after.estimator? id = s.estimator? id) ∧
    (∀ (s : Session α) (id : String)
        (method : Option (Method α)),
      step (.create id method) s =
        (pure .done,
          s.withEstimator id
            (.create method s.shared.newSettings))) ∧
    ∀ (s s' : Session α) (id : String) (command : Command α),
      s.estimator? id = s'.estimator? id →
      s.shared.chance = s'.shared.chance →
      s.shared.processors = s'.shared.processors →
      let ask := step (.command id command)
      (ask s).1 = (ask s').1 ∧
        (ask s).2.estimator? id = (ask s').2.estimator? id := by
  refine ⟨?_, ?_, fun s id method => rfl, ?_⟩
  · intro start before between id method alsoDefaults isBefore
      isBetween create created hBefore hBetween hHeld s s'
    let start' := (start.run (without isBefore before)).2
    let created' := (step create start').2
    have hCreated : created.seen id = created'.seen id :=
      seen_create (standing_run_without hBefore) id method
    have hS : s = (created.run between).2 :=
      state_run_append _ _ _
    have hS' :
        s' = (created'.run (without isBetween between)).2 :=
      state_run_append _ _ _
    have hSame : s.seen id = s'.seen id := by
      rw [hS, hS']
      refine seen_run_without ?_ ?_ hHeld hBetween hCreated
      · intro request hDeleted hOwn
        have hDefault :
            alsoDefaults = true ∧
              request.changesDefault = true := by
          simpa [isBetween, hOwn] using hDeleted
        rw [Request.target?_of_changesDefault hDefault.2]
          at hOwn
        cases hOwn
      · intro request other hTarget hOther
        simp [isBetween, hTarget, hOther]
    have hSome : (s.estimator? id).isSome = true := by
      rw [hS]
      apply isSome_estimator?_run
      exact congrArg Option.isSome (estimator?_withEstimator ..)
    rcases Option.isSome_iff_exists.mp hSome with ⟨e, hFound⟩
    refine ⟨⟨e, hFound, ?_⟩, fun command => ?_⟩
    · rw [← (seen_eq_iff.mp hSame).1, hFound]
    · rcases dependsOn_step id command s s' hSame with
        ⟨hReport, hAfter⟩
      exact ⟨hReport, (seen_eq_iff.mp hAfter).1⟩
  · intro s request hSome after
    exact
      ⟨Shared.eq_of_defaults
          (defaults_step_of_isSome hSome s).symm,
        fun hSilent => chance_step hSilent,
        fun id hOther => estimator?_step_of_ne hOther s⟩
  · intro s s' id command hEstimator hChance hProcessors ask
    have hSeen : s.seen id = s'.seen id :=
      seen_eq_iff.mpr ⟨hEstimator, hChance, hProcessors⟩
    rcases dependsOn_step id command s s' hSeen with
      ⟨hReport, hAfter⟩
    exact ⟨hReport, (seen_eq_iff.mp hAfter).1⟩

/-
  An estimator of the other algorithm, set to its own number
  of neighbours, and the defaults that change later on.
-/
theorem step_without_others_doubles :
    let start : Session Float := initial (.initial none default)
    let column (entries : List Float) : Value Float :=
      .list (entries.map .real)
    let load (id : String) : Request Float :=
      .command id
        (.add (column [0, 1, 3]) (column [0, 2, 1])
          (column [0, 0, 1]) .null)
    let create : Request Float :=
      .create "mine" (some (.counting .first))
    let own : List (Request Float) :=
      [.command "mine" (.initialise (.list [])),
        .command "mine" .start, load "mine",
        .command "mine" .finalise]
    let before : List (Request Float) :=
      [.create "other" (some (.counting .second)),
        .setDefaultK (.whole 1),
        .command "other" (.initialise (.list [])),
        .command "other" (.set (.text "k") (.whole 2))]
    let between : List (Request Float) :=
      [.command "mine" (.initialise (.list [])),
        .command "other" .start,
        .command "mine" .start, load "other", load "mine",
        .setDefaultK (.whole 3),
        .command "other" (.average .null .null),
        .command "mine" .finalise,
        .chooseThreads (.text "single") (.whole 0)]
    let ask := step (.command "mine" (.average .null .null))
    let s := (start.run (before ++ create :: between)).2
    let s' :=
      (start.run (.setDefaultK (.whole 1) :: create :: own)).2
    (ask s).1 = (ask s').1 ∧
      (ask s).2.estimator? "mine" =
        (ask s').2.estimator? "mine" := by
  intro start column load create own before between ask s s'
  have hBefore :
      start.DrawsNone (fun r => r.target?.isSome) before := by
    apply drawsNone_of_forall
    intro id command hMem hDeleted e hDraws
    simp only [before, List.mem_cons] at hMem
    rcases hMem with h | h | h | h | h <;> cases h <;>
      exact hDraws
  have hBetween :
      (step create (start.run before).2).2.DrawsNone
        (fun r =>
          r.target?.any (· != "mine") ||
            (true && r.changesDefault))
        between := by
    apply drawsNone_of_forall
    intro id command hMem hDeleted e hDraws
    have hOther : id ≠ "mine" := by
      rintro rfl
      simp [Request.target?, Request.changesDefault]
        at hDeleted
    simp only [between, load, List.mem_cons] at hMem
    rcases hMem with h | h | h | h | h | h | h | h | h | h <;>
      cases h <;> first | exact hDraws | exact hOther rfl
  have hHeld :
      ∀ other, Request.create "mine" other ∉ between := by
    intro other hMem
    simp [between, load] at hMem
  rcases
      step_without_others.1 start before between "mine"
        (some (.counting .first)) true hBefore hBetween hHeld
    with ⟨-, hAsk⟩
  exact hAsk (.average .null .null)

end Session

end NeighbourInfo
