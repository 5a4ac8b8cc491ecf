import NeighbourInfo.Proofs.Session.Dependence
import NeighbourInfo.Proofs.Session.LastComputation
import NeighbourInfo.Proofs.Session.Properties

/-
  Settings in any order.

  Key definitions include:
    * `NeighbourInfo.Property.shapesData`
    * `NeighbourInfo.Command.LoadsData`
    * `NeighbourInfo.Command.Computes`

  Some properties only matter when observations are completed,
  the others only when something is computed from them.  None
  is looked at earlier, kept for later or set back.  So it may
  be set before or after what it does not matter to, and two
  of them may be set in either order.

  This is proven by:
    * `NeighbourInfo.Command.leaves_terms`
    * `NeighbourInfo.Command.respects_of_loadsData`
    * `NeighbourInfo.Command.respects_of_computes`
    * `NeighbourInfo.Command.settings_in_any_order`
-/

------------------------------------------------------------
-- Loading Data
------------------------------------------------------------

namespace NeighbourInfo

namespace Context

variable {α β : Type} {f : Settings α → Settings α}

/- A change of the estimator apart from its settings. -/
theorem respects_updateEstimator
    {g : Estimator α → Except (Error α) (Estimator α)}
    (hSame :
      ∀ e, g (e.adjusted f) =
        (g e).map (Estimator.adjusted f)) :
    Transition.Respects (adjusted f) (updateEstimator g) := by
  intro c
  have hOutcome := hSame c.estimator
  cases hRun : g c.estimator with
  | error e =>
      rw [hRun] at hOutcome
      rw [updateEstimator_of_error hRun]
      exact updateEstimator_of_error hOutcome
  | ok e =>
      rw [hRun] at hOutcome
      rw [updateEstimator_of_ok hRun]
      exact updateEstimator_of_ok hOutcome

theorem respects_start :
    Transition.Respects (adjusted f)
      (updateEstimator (α := α) Estimator.start) := by
  refine respects_updateEstimator fun e => ?_
  unfold Estimator.start Estimator.adjusted
  dsimp only
  split <;> rfl

variable [Scalar α]

/- What completing the observations looks at must stay. -/
theorem respects_finalise
    (hNormalise : ∀ s, (f s).normalise = s.normalise)
    (hNoise : ∀ s, (f s).noise = s.noise) :
    Transition.Respects (adjusted f) (finalise (α := α)) := by
  unfold finalise
  refine Transition.Respects.bind ?_ fun chunks => ?_
  · -- Closing the chunks does not look at the settings.
    refine Transition.respects_change fun c => ?_
    change
      (c.estimator.openChunks >>= _ : Except _ _).map _ =
        ((c.estimator.openChunks >>= _ : Except _ _).map _).map
          _
    cases c.estimator.openChunks <;> rfl
  · refine Transition.Respects.bind ?_ fun _ => ?_
    · -- The tables are standardised where that is asked for.
      refine respects_updateEstimator fun e => ?_
      unfold Estimator.install Estimator.adjusted
      dsimp only
      rw [hNormalise]
      split <;> rfl
    · -- They get the noise that is asked for.
      refine Transition.respects_change fun c => ?_
      unfold adjusted Estimator.addNoise Estimator.adjusted
      dsimp only
      rw [hNoise]
      split
      · next level data hLevel hData =>
          cases data.addNoise level c.shared.chance <;> rfl
      · rfl

variable [Literal α]

theorem respects_add
    (x : Value α)
    (y : Value α)
    (z : Value α)
    (mask : Value α) :
    Transition.Respects (adjusted f)
      (updateEstimator (Estimator.add x y z mask)) := by
  refine respects_updateEstimator fun e => ?_
  unfold Estimator.add
  change (e.openChunks >>= _) = (e.openChunks >>= _).map _
  cases e.openChunks with
  | error e => rfl
  | ok chunks =>
      change
        (Observations.ofValues e.dimensions x y z >>= _) =
          (Observations.ofValues e.dimensions x y z >>= _).map
            _
      cases Observations.ofValues e.dimensions x y z with
      | error e => rfl
      | ok chunk =>
          change
            (chunk.masked mask >>= _) =
              (chunk.masked mask >>= _).map _
          cases chunk.masked mask <;> rfl

theorem respects_setObservations
    (hNormalise : ∀ s, (f s).normalise = s.normalise)
    (hNoise : ∀ s, (f s).noise = s.noise)
    (x : Value α)
    (y : Value α)
    (z : Value α) :
    Transition.Respects (adjusted f)
      (setObservations x y z) := by
  unfold setObservations
  refine respects_start.bind fun _ => ?_
  refine (respects_add x y z .null).bind fun _ => ?_
  exact respects_finalise hNormalise hNoise

end Context

namespace Command

variable {α : Type} [Scalar α] [Literal α]

/- The command prepares for observations, or takes them in. -/
def LoadsData :
    Command α → Prop
  | .initialise _ => True
  | .setObservations _ _ _ => True
  | .start => True
  | .add _ _ _ _ => True
  | .finalise => True
  | _ => False

/- Data are loaded with other settings as with these. -/
theorem respects_of_loadsData
    {f : Settings α → Settings α}
    (hNormalise : ∀ s, (f s).normalise = s.normalise)
    (hNoise : ∀ s, (f s).noise = s.noise)
    {command : Command α}
    (hLoads : command.LoadsData) :
    Transition.Respects (Context.adjusted f) command.run := by
  unfold run
  cases command with
  | initialise dims =>
      refine Transition.Respects.map ?_ _
      refine Context.respects_updateEstimator fun e => ?_
      unfold Estimator.initialise
      cases Dimensions.ofItems dims <;> rfl
  | setObservations x y z =>
      exact
        (Context.respects_setObservations hNormalise hNoise x y
          z).map _
  | start => exact Context.respects_start.map _
  | add x y z mask =>
      exact (Context.respects_add x y z mask).map _
  | finalise =>
      exact
        (Context.respects_finalise hNormalise hNoise).map _
  | _ => exact hLoads.elim

end Command

end NeighbourInfo

------------------------------------------------------------
-- Computing
------------------------------------------------------------

namespace NeighbourInfo

namespace Context

variable {α β : Type} {f : Settings α → Settings α}

/- What goes on by the estimator must not see the change. -/
theorem respects_bind_estimator?
    {g : Estimator α → Transition (Context α) α β}
    (hSame : ∀ e, g (e.adjusted f) = g e)
    (hEach :
      ∀ e, Transition.Respects (adjusted f) (g e)) :
    Transition.Respects (adjusted f) (estimator? >>= g) := by
  intro c
  have hRead (c : Context α) :
      (estimator? : Transition (Context α) α _) c =
        (⟨[], .ok c.estimator⟩, c) := rfl
  rw [Transition.bind_of_read (hRead _),
    Transition.bind_of_read (hRead c)]
  exact
    (congrFun (hSame c.estimator) _).trans
      (hEach c.estimator c)

theorem respects_method
    (missing : Error α) :
    Transition.Respects (adjusted f) (method missing) := by
  refine respects_bind_estimator? (fun e => rfl) fun e => ?_
  split
  · exact Transition.respects_pure _
  · exact Transition.respects_ofExcept _

theorem respects_keepAverage
    (value : α) :
    Transition.Respects (adjusted f) (keepAverage value) :=
  respects_updateEstimator fun _ => rfl

/- The method must compute the same after the change. -/
theorem respects_compute
    [Scalar α]
    (missing : Error α)
    {evaluate :
      Method α → Settings α → Observations α →
        Report α (Computation α × β)}
    (hEvaluate :
      ∀ m s data, evaluate m (f s) data = evaluate m s data) :
    Transition.Respects (adjusted f)
      (compute missing evaluate) := by
  unfold compute
  refine (respects_method missing).bind fun m => ?_
  refine respects_bind_estimator? (fun e => ?_) fun e => ?_
  · change
      (Transition.ofExcept e.finalised >>= fun data =>
        Transition.report (evaluate m (f e.settings) data) >>=
          _) = _
    simp only [hEvaluate]
  · refine (Transition.respects_ofExcept _).bind fun data => ?_
    refine (Transition.respects_report _).bind fun outcome => ?_
    exact Transition.Respects.map (fun c => rfl) _

/- The exchange of tables does not mind other settings. -/
theorem respects_exchanging
    [Scalar α]
    {operation : Transition (Context α) α β}
    (hOperation :
      Transition.Respects (adjusted f) operation)
    (chosen : Variable)
    (former : Table α)
    (t : Table α) :
    Transition.Respects (adjusted f)
      (exchanging chosen former t operation) := by
  intro c
  let exchanged (c : Context α) : Context α :=
    { c with estimator := c.estimator.withTable t chosen }
  have hExchanged :
      exchanged (c.adjusted f) = (exchanged c).adjusted f := rfl
  have hBetween :
      operation (exchanged (c.adjusted f)) =
        ((operation (exchanged c)).1,
          (operation (exchanged c)).2.adjusted f) := by
    rw [hExchanged, hOperation]
  unfold exchanging
  rw [hBetween]
  rfl

section Averages

variable [Scalar α]
variable
  (hConfig : ∀ (m : Method α) s, m.config (f s) = m.config s)

include hConfig

/- A computation begins with its settings and its kernel. -/
theorem respects_average_compute :
    Transition.Respects (adjusted f)
      (compute .notImplemented Method.average) := by
  refine respects_compute _ fun m s data => ?_
  unfold Method.average
  rw [hConfig]

theorem respects_plainAverage
    (hDebug : ∀ s, (f s).debug = s.debug) :
    Transition.Respects (adjusted f)
      (plainAverage (α := α)) := by
  unfold plainAverage
  refine
    (respects_average_compute hConfig).bind fun value => ?_
  refine (respects_keepAverage value).bind fun _ => ?_
  refine respects_bind_estimator? (fun e => ?_) fun e => ?_
  · unfold Estimator.adjusted
    rw [hDebug]
  · exact (Transition.respects_report _).map _

theorem respects_locals :
    Transition.Respects (adjusted f) (locals (α := α)) := by
  unfold locals
  refine Transition.Respects.bind ?_ fun values => ?_
  · refine respects_compute _ fun m s data => ?_
    unfold Method.locals
    rw [hConfig]
  · exact (respects_keepAverage _).map _

variable [Literal α]

theorem respects_reorderedAverage
    (chosen : Value α)
    (ordering : Value α) :
    Transition.Respects (adjusted f)
      (reorderedAverage chosen ordering) := by
  unfold reorderedAverage
  refine (respects_method _).bind fun _ => ?_
  refine respects_bind_estimator? (fun e => rfl) fun e => ?_
  refine (Transition.respects_ofExcept _).bind fun data => ?_
  refine (Transition.respects_ofExcept _).bind fun v => ?_
  refine (Transition.respects_ofExcept _).bind fun t => ?_
  exact
    respects_exchanging (respects_average_compute hConfig) _ _ _

theorem respects_average
    (hDebug : ∀ s, (f s).debug = s.debug)
    (chosen : Value α)
    (ordering : Value α) :
    Transition.Respects (adjusted f)
      (average chosen ordering) := by
  unfold average
  split
  · exact respects_plainAverage hConfig hDebug
  · exact respects_reorderedAverage hConfig chosen _

theorem respects_significance
    (hDebug : ∀ s, (f s).debug = s.debug)
    (chosen : Value α)
    (count : Value α)
    (orderings : Value α) :
    Transition.Respects (adjusted f)
      (significance chosen count orderings) := by
  unfold significance
  refine respects_bind_estimator? (fun e => rfl) fun e => ?_
  refine (Transition.respects_ofExcept _).bind fun data => ?_
  refine (Transition.respects_ofExcept _).bind fun _ => ?_
  refine Transition.Respects.bind ?_ fun orderings => ?_
  · unfold chooseOrderings
    split
    · refine (Transition.respects_ofExcept _).bind fun n => ?_
      exact Transition.Respects.map (fun c => rfl) _
    · exact Transition.respects_pure _
  refine
    (respects_average hConfig hDebug _ _).bind
      fun actual => ?_
  split
  · refine Transition.Respects.map ?_ _
    exact
      Transition.Respects.mapM
        (respects_average hConfig hDebug chosen) _
  · exact Transition.respects_ofExcept _

end Averages

end Context

namespace Command

variable {α : Type} [Scalar α] [Literal α]

/- The command computes something from the observations. -/
def Computes :
    Command α → Prop
  | .average _ _ => True
  | .locals => True
  | .localsOf _ _ _ => True
  | .significance _ _ _ => True
  | _ => False

/- Other settings that make no difference to the method. -/
theorem respects_of_computes
    {f : Settings α → Settings α}
    (hConfig : ∀ (m : Method α) s, m.config (f s) = m.config s)
    (hDebug : ∀ s, (f s).debug = s.debug)
    {command : Command α}
    (hComputes : command.Computes) :
    Transition.Respects (Context.adjusted f) command.run := by
  unfold run
  cases command with
  | average chosen ordering =>
      exact
        (Context.respects_average hConfig hDebug chosen
          ordering).map _
  | locals => exact (Context.respects_locals hConfig).map _
  | localsOf x y z =>
      refine Transition.Respects.map ?_ _
      refine (Context.respects_method _).bind fun _ => ?_
      exact Transition.respects_ofExcept _
  | significance chosen count orderings =>
      exact
        (Context.respects_significance hConfig hDebug chosen
          count orderings).map _
  | _ => exact hComputes.elim

end Command

end NeighbourInfo

------------------------------------------------------------
-- Setting
------------------------------------------------------------

namespace NeighbourInfo

/-
  The property has an effect when observations are completed,
  and none when something is computed from them.
-/
def Property.shapesData :
    Property → Bool
  | .noise => true
  | .normalise => true
  | _ => false

namespace Settings

variable {α : Type} {property : Property}

theorem normalise_taking
    (hOther : property.shapesData = false)
    (s : Settings α)
    (source : Settings α) :
    (s.taking property source).normalise = s.normalise := by
  cases property <;> first | rfl | cases hOther

theorem noise_taking
    (hOther : property.shapesData = false)
    (s : Settings α)
    (source : Settings α) :
    (s.taking property source).noise = s.noise := by
  cases property <;> first | rfl | cases hOther

theorem config_taking
    (hShapes : property.shapesData = true)
    (m : Method α)
    (s : Settings α)
    (source : Settings α) :
    m.config (s.taking property source) = m.config s := by
  cases property <;> first | rfl | cases hShapes

theorem debug_taking
    (property : Property)
    (s : Settings α)
    (source : Settings α) :
    (s.taking property source).debug = s.debug := by
  cases property <;> rfl

end Settings

/- A property is only found under its own name. -/
theorem Estimator.upper_of_property
    {α : Type}
    {e : Estimator α}
    {name : String}
    {property : Property}
    (hNamed :
      e.property (.text name) = .ok (some property)) :
    Text.upper name = property.name := by
  rcases exists_of_bind_eq_ok hNamed with
    ⟨named, hFound, hFiltered⟩
  have hSome : named.filter _ = some property :=
    Except.ok.inj hFiltered
  rw [(Option.filter_eq_some_iff.mp hSome).1] at hFound
  exact Property.ofName?_eq_some_iff.mp (Except.ok.inj hFound)

namespace Command

variable {α : Type} [Scalar α] [Literal α]

/- Neither the method nor the processors are exchanged. -/
theorem leaves_terms
    (command : Command α) :
    Transition.Leaves Context.terms command.run := by
  refine Transition.leaves_of_keeps fun terms => ?_
  refine keeps_run ?_ command fun dims _ c e hOk hTerms => ?_
  · intro c after hChange hTerms
    cases hChange with
    | estimator hChange =>
        unfold Context.terms at hTerms ⊢
        rw [← hTerms, hChange.method_eq]
    | record computation => exact hTerms
    | draw chance => exact hTerms
  · rcases Estimator.eq_of_initialise hOk with ⟨d, -, rfl⟩
    exact hTerms

/- A property commutes with what does not mind its changes. -/
theorem commutes_set
    {name v : Value α}
    {command : Command α}
    (hRespects :
      ∀ (c : Context α) property source,
        c.estimator.property name = .ok (some property) →
          Transition.Respects
            (Context.adjusted fun s =>
              s.taking property source)
            command.run) :
    Transition.Commutes (set name v).run command.run := by
  refine Transition.commutes_of_respects fun c => ?_
  have hTerms := leaves_terms command c
  rcases run_set_cases name v c with
    ⟨e, hRun⟩ | ⟨-, hRun⟩ | ⟨property, source, hNamed, hRun⟩
  · exact
      ⟨_, id, Transition.respects_id _, hRun c rfl,
        hRun _ hTerms⟩
  · exact
      ⟨_, id, Transition.respects_id _, hRun c rfl,
        hRun _ hTerms⟩
  · exact
      ⟨_, _, hRespects c property source hNamed, hRun c rfl,
        hRun _ hTerms⟩

/- Setting a property does not mind changes of another one. -/
theorem respects_set
    {name : String}
    {property : Property}
    (hOther : Text.upper name ≠ property.name)
    (v : Value α)
    (source : Settings α) :
    Transition.Respects
      (Context.adjusted fun s => s.taking property source)
      (set (.text name) v).run := by
  intro c
  rcases run_set_cases (.text name) v c with
    ⟨e, hRun⟩ | ⟨-, hRun⟩ | ⟨other, source', hNamed, hRun⟩
  · rw [hRun c rfl, hRun (c.adjusted _) rfl]
  · rw [hRun c rfl, hRun (c.adjusted _) rfl]
  · have hDistinct : property ≠ other := by
      rintro rfl
      exact hOther (Estimator.upper_of_property hNamed)
    rw [hRun c rfl, hRun (c.adjusted _) rfl]
    unfold Context.adjusted Estimator.adjusted
    dsimp only
    rw [Settings.taking_comm hDistinct]

end Command

end NeighbourInfo

------------------------------------------------------------
-- Any Order
------------------------------------------------------------

namespace NeighbourInfo

namespace Command

variable {α : Type} [Scalar α] [Literal α]

/- Announcements may be asked for before or after loading. -/
theorem commutes_setDebug
    {command : Command α}
    (hLoads : command.LoadsData)
    (v : Value α) :
    Transition.Commutes (setDebug v).run command.run := by
  refine Transition.commutes_of_respects fun c => ?_
  refine
    ⟨_, Context.adjusted fun s => { s with debug := v.holds },
      ?_, rfl, rfl⟩
  refine respects_of_loadsData ?_ ?_ hLoads
  · exact fun s => rfl
  · exact fun s => rfl

/- A new start keeps the settings. -/
theorem leaves_settings_initialise
    (dims : Value α) :
    Transition.Leaves (fun c => c.estimator.settings)
      (initialise dims).run := by
  refine Transition.Leaves.map ?_ _
  refine Transition.leaves_of_keeps fun settings => ?_
  refine Context.keeps_updateEstimator fun c e hOk hSame => ?_
  rcases Estimator.eq_of_initialise hOk with ⟨d, -, rfl⟩
  exact hSame

/-
  Settings may be given in any order.  Whatever values they
  are given, and whether or not these are taken, properties
  that do not shape data commute with all that loads data, as
  announcements do, and properties that shape data commute
  with all computations.  Properties of different names, apart
  from letter case, commute with each other.  Initialising
  keeps all settings.
-/
theorem settings_in_any_order :
    (∀ command : Command α, command.LoadsData →
      (∀ name (property : Property) (v : Value α),
        Text.upper name = property.name →
          property.shapesData = false →
            Transition.Commutes (set (.text name) v).run
              command.run) ∧
      ∀ v, Transition.Commutes (setDebug v).run command.run) ∧
    (∀ command : Command α, command.Computes →
      ∀ name (property : Property) (v : Value α),
        Text.upper name = property.name →
          property.shapesData = true →
            Transition.Commutes (set (.text name) v).run
              command.run) ∧
    (∀ name other (v w : Value α),
      Text.upper name ≠ Text.upper other →
        Transition.Commutes (set (.text name) v).run
          (set (.text other) w).run) ∧
    ∀ (dims : Value α) (c : Context α),
      ((initialise dims).run c).2.estimator.settings =
        c.estimator.settings := by
  have hMeant {name} {property other : Property}
      {c : Context α}
      (hName : Text.upper name = property.name)
      (hNamed :
        c.estimator.property (.text name) =
          .ok (some other)) :
      property = other := by
    have hUpper := Estimator.upper_of_property hNamed
    exact Property.name_injective (hName.symm.trans hUpper)
  refine ⟨fun command hLoads => ⟨?_, ?_⟩, ?_, ?_, ?_⟩
  · intro name property v hName hOther
    refine commutes_set fun c named source hNamed => ?_
    cases hMeant hName hNamed
    exact
      respects_of_loadsData
        (fun s => Settings.normalise_taking hOther s source)
        (fun s => Settings.noise_taking hOther s source)
        hLoads
  · exact commutes_setDebug hLoads
  · intro command hComputes name property v hName hShapes
    refine commutes_set fun c named source hNamed => ?_
    cases hMeant hName hNamed
    exact
      respects_of_computes
        (fun m s => Settings.config_taking hShapes m s source)
        (fun s => Settings.debug_taking property s source)
        hComputes
  · intro name other v w hNames
    refine commutes_set fun c property source hNamed => ?_
    refine respects_set ?_ w source
    rw [← Estimator.upper_of_property hNamed]
    exact hNames.symm
  · exact leaves_settings_initialise

/- A norm, a refused word and a number of neighbours. -/
theorem settings_in_any_order_doubles :
    let column (entries : List Float) : Value Float :=
      .list (entries.map .real)
    let loading : Command Float :=
      .setObservations (column [0, 1, 3]) (column [0, 2, 1])
        (column [0, 0, 1])
    let computing : Command Float :=
      .significance (.whole 1) (.whole 2) .null
    Transition.Commutes
        (set (.text "norm_type") (.text "euclidean")).run
        loading.run ∧
      Transition.Commutes
        (set (.text "Normalise") (.text "maybe")).run
        computing.run ∧
      Transition.Commutes
        (set (.text "Normalise") (.text "maybe")).run
        (set (.text "k") (.whole 3) : Command Float).run := by
  intro column loading computing
  have hNorm : Text.upper "norm_type" = Property.norm.name := by
    decide
  have hNormalise :
      Text.upper "Normalise" = Property.normalise.name := by
    decide
  rcases settings_in_any_order (α := Float) with
    ⟨hLoads, hComputes, hNames, -⟩
  exact
    ⟨(hLoads loading trivial).1 "norm_type" .norm _ hNorm rfl,
      hComputes computing trivial "Normalise" .normalise _
        hNormalise rfl,
      hNames "Normalise" "k" _ _ (by decide)⟩

end Command

end NeighbourInfo
