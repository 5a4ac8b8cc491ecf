import NeighbourInfo.Proofs.Properties

/-
  Properties of the estimators of a session.

  Key definitions include:
    * `NeighbourInfo.Estimator.hasProperty`
    * `NeighbourInfo.Estimator.adjusted`
    * `NeighbourInfo.Context.adjusted`
    * `NeighbourInfo.Context.terms`

  To set a property is to adjust the settings, and nothing
  but the settings.  How they are adjusted, or why they are
  not, does not depend on the state of the estimator.  So what
  a property reads back as can be handed to any estimator that
  has the property, which is then set to the same.

  This is proven by:
    * `NeighbourInfo.Command.run_get`
    * `NeighbourInfo.Command.run_set_cases`
    * `NeighbourInfo.Command.properties_read_back`
-/

------------------------------------------------------------
-- Properties Of Estimators
------------------------------------------------------------

namespace NeighbourInfo

namespace Estimator

variable {α : Type}

/- The estimator has the property. -/
def hasProperty
    (e : Estimator α)
    (property : Property) :
    Bool :=
  e.method.isSome || property.concernsData

/- A name is found in any letter case. -/
theorem property_of_name
    {e : Estimator α}
    {property : Property}
    {name : String}
    (hName : Text.upper name = property.name)
    (hHas : e.hasProperty property = true) :
    e.property (.text name) = .ok (some property) := by
  have hFound :
      Property.ofName? (Text.upper name) = some property :=
    Property.ofName?_eq_some_iff.mpr hName
  unfold Estimator.property Property.ofValue
  dsimp only
  rw [hFound]
  exact congrArg Except.ok (Option.filter_some_pos hHas)

/- No estimator has a property of any other name. -/
theorem property_of_unknown
    (e : Estimator α)
    {name : String}
    (hUnknown :
      ∀ property : Property,
        Text.upper name ≠ property.name) :
    e.property (.text name) = .ok none := by
  unfold Estimator.property Property.ofValue
  dsimp only
  rw [Property.ofName?_eq_none_iff.mpr hUnknown]
  rfl

/- Which property is meant only depends on the method. -/
theorem property_congr
    {e e' : Estimator α}
    (hMethod : e.method.isSome = e'.method.isSome)
    (name : Value α) :
    e.property name = e'.property name := by
  unfold Estimator.property
  rw [hMethod]

/- The estimator with other settings. -/
def adjusted
    (f : Settings α → Settings α)
    (e : Estimator α) :
    Estimator α :=
  { e with settings := f e.settings }

variable [Scalar α] [Literal α]

/- A name that cannot be read is refused. -/
theorem set_of_unread
    {e : Estimator α}
    {name : Value α}
    {refusal : Error α}
    (hUnread : e.property name = .error refusal)
    (processors : Nat)
    (v : Value α) :
    e.set processors name v = .error refusal := by
  unfold Estimator.set
  rw [hUnread]
  rfl

/- The name of no property is ignored. -/
theorem set_of_none
    {e : Estimator α}
    {name : Value α}
    (hNone : e.property name = .ok none)
    (processors : Nat)
    (v : Value α) :
    e.set processors name v = .ok e := by
  unfold Estimator.set
  rw [hNone]
  rfl

/- A property is set in the settings. -/
theorem set_of_some
    {e : Estimator α}
    {name : Value α}
    {property : Property}
    (hNamed : e.property name = .ok (some property))
    (processors : Nat)
    (v : Value α) :
    e.set processors name v =
      (e.settings.set processors property v).map
        fun settings => e.adjusted fun _ => settings := by
  unfold Estimator.set
  rw [hNamed]
  change (e.settings.set processors property v >>= _) = _
  cases e.settings.set processors property v <;> rfl

/- It is set as the value would be in any other settings. -/
theorem set_eq_map_taking
    {e : Estimator α}
    {name : Value α}
    {property : Property}
    (hNamed : e.property name = .ok (some property))
    (processors : Nat)
    (v : Value α)
    (s : Settings α) :
    e.set processors name v =
      (s.set processors property v).map fun source =>
        e.adjusted fun t => t.taking property source := by
  rw [set_of_some hNamed,
    Settings.set_eq_map_taking processors property v _ s]
  cases s.set processors property v <;> rfl

/- The text of a property is got from the settings. -/
theorem get_of_property
    {e : Estimator α}
    {name : Value α}
    {property? : Option Property}
    (hNamed : e.property name = .ok property?) :
    e.get name = .ok (property?.map e.settings.get) := by
  unfold Estimator.get
  rw [hNamed]
  rfl

end Estimator

end NeighbourInfo

------------------------------------------------------------
-- Adjusting Settings
------------------------------------------------------------

namespace NeighbourInfo

variable {α : Type}

namespace Context

/- The context with other settings of its estimator. -/
def adjusted
    (f : Settings α → Settings α)
    (c : Context α) :
    Context α :=
  { c with estimator := c.estimator.adjusted f }

/- Only the settings that there are are adjusted. -/
theorem adjusted_congr
    {f g : Settings α → Settings α}
    {c : Context α}
    (hSame : f c.estimator.settings = g c.estimator.settings) :
    c.adjusted f = c.adjusted g := by
  unfold adjusted Estimator.adjusted
  rw [hSame]

/-
  What it depends on which property a name stands for, and
  what a value of it means.
-/
def terms
    (c : Context α) :
    Bool × Nat :=
  (c.estimator.method.isSome, c.shared.processors)

end Context

namespace Command

variable [Scalar α] [Literal α]

/- Setting a property goes by the number of processors. -/
theorem run_set_eq
    (name : Value α)
    (v : Value α)
    (c : Context α) :
    (set name v).run c =
      (Context.updateEstimator
          (Estimator.set c.shared.processors name v) >>=
        fun _ => pure .done) c := by
  have hCurrent :
      (Transition.current : Transition (Context α) α _) c =
        (⟨[], .ok c⟩, c) := rfl
  unfold run
  dsimp only
  rw [Transition.bind_of_read hCurrent]

theorem run_set_of_error
    {name v : Value α}
    {c : Context α}
    {e : Error α}
    (hError :
      c.estimator.set c.shared.processors name v = .error e) :
    (set name v).run c = (⟨[], .error e⟩, c) := by
  rw [run_set_eq]
  exact
    Transition.bind_error
      (Context.updateEstimator_of_error hError) _

theorem run_set_of_ok
    {name v : Value α}
    {c : Context α}
    {e : Estimator α}
    (hOk :
      c.estimator.set c.shared.processors name v = .ok e) :
    (set name v).run c =
      (⟨[], .ok .done⟩, { c with estimator := e }) := by
  rw [run_set_eq]
  exact
    Transition.bind_ok (Context.updateEstimator_of_ok hOk) _

/- Getting a property gives its text, and changes nothing. -/
theorem run_get
    {name : Value α}
    {property? : Option Property}
    {c : Context α}
    (hNamed : c.estimator.property name = .ok property?) :
    (get name).run c =
      (⟨[],
        .ok
          (.text (property?.map c.estimator.settings.get))⟩,
        c) := by
  have hRead :
      (Context.estimator? : Transition (Context α) α _) c =
        (⟨[], .ok c.estimator⟩, c) := rfl
  unfold run
  dsimp only
  rw [Transition.bind_of_read hRead,
    Estimator.get_of_property hNamed]
  rfl

/-
  Setting a property fails, has no effect or takes over the
  property, in this context as in any other that has the same
  processors and the same properties.
-/
theorem run_set_cases
    (name : Value α)
    (v : Value α)
    (c : Context α) :
    (∃ e, ∀ c' : Context α, c'.terms = c.terms →
      (set name v).run c' = (⟨[], .error e⟩, c')) ∨
    (c.estimator.property name = .ok none ∧
      ∀ c' : Context α, c'.terms = c.terms →
        (set name v).run c' = (⟨[], .ok .done⟩, c')) ∨
    ∃ property source,
      c.estimator.property name = .ok (some property) ∧
      ∀ c' : Context α, c'.terms = c.terms →
        (set name v).run c' =
          (⟨[], .ok .done⟩,
            c'.adjusted fun s => s.taking property source) := by
  have hAlike {c' : Context α} (hTerms : c'.terms = c.terms) :
      c'.estimator.property name = c.estimator.property name ∧
        c'.shared.processors = c.shared.processors := by
    rcases Prod.mk.inj hTerms with ⟨hMethod, hProcessors⟩
    exact ⟨Estimator.property_congr hMethod name, hProcessors⟩
  rcases hNamed : c.estimator.property name with
    e | _ | property
  · refine .inl ⟨e, fun c' hTerms => run_set_of_error ?_⟩
    exact
      Estimator.set_of_unread
        ((hAlike hTerms).1.trans hNamed) _ v
  · refine .inr (.inl ⟨rfl, fun c' hTerms => ?_⟩)
    exact
      run_set_of_ok
        (Estimator.set_of_none
          ((hAlike hTerms).1.trans hNamed) _ v)
  · -- What the value means is found out in this context.
    have hSet
        {c' : Context α}
        (hTerms : c'.terms = c.terms) :
        c'.estimator.set c'.shared.processors name v =
          (c.estimator.settings.set c.shared.processors
            property v).map fun source =>
              c'.estimator.adjusted fun s =>
                s.taking property source := by
      rw [(hAlike hTerms).2]
      exact
        Estimator.set_eq_map_taking
          ((hAlike hTerms).1.trans hNamed) _ _ _
    cases hValue :
        c.estimator.settings.set c.shared.processors property
          v with
    | error e =>
        simp only [hValue] at hSet
        exact
          .inl ⟨e, fun c' hTerms =>
            run_set_of_error (hSet hTerms)⟩
    | ok source =>
        simp only [hValue] at hSet
        exact
          .inr (.inr ⟨property, source, rfl, fun c' hTerms =>
            run_set_of_ok (hSet hTerms)⟩)

end Command

end NeighbourInfo

------------------------------------------------------------
-- Reading Back
------------------------------------------------------------

namespace NeighbourInfo

namespace Command

variable {α : Type} [Scalar α] [Literal α]

/- Where a property was set, its value was taken over. -/
theorem exists_of_run_set
    {name v : Value α}
    {property : Property}
    {c : Context α}
    (hNamed : c.estimator.property name = .ok (some property))
    (hDone : ((set name v).run c).1.result = .ok .done) :
    ∃ settings,
      c.estimator.settings.set c.shared.processors property
          v =
        .ok settings ∧
      (set name v).run c =
        (⟨[], .ok .done⟩, c.adjusted fun _ => settings) := by
  have hSet :=
    Estimator.set_of_some hNamed c.shared.processors v
  cases hValue :
      c.estimator.settings.set c.shared.processors property
        v with
  | error e =>
      rw [hValue] at hSet
      rw [run_set_of_error hSet] at hDone
      cases hDone
  | ok settings =>
      rw [hValue] at hSet
      exact ⟨settings, rfl, run_set_of_ok hSet⟩

/-
  A text of a property that is taken by all settings is taken
  by each estimator that has the property.
-/
private theorem run_set_of_forall
    {name : Value α}
    {v : Value α}
    {property : Property}
    {source : Settings α}
    (hTaken :
      ∀ processors (s : Settings α),
        s.set processors property v =
          .ok (s.taking property source))
    {c : Context α}
    (hNamed :
      c.estimator.property name = .ok (some property)) :
    (set name v).run c =
      (⟨[], .ok .done⟩,
        c.adjusted fun s => s.taking property source) := by
  have hSet :=
    Estimator.set_of_some hNamed c.shared.processors v
  rw [hTaken] at hSet
  exact run_set_of_ok hSet

/-
  Properties read back.  Whenever a property is set, under its
  name in any letter case, its text is a value of it: set
  again it changes nothing, and in any other estimator that
  has the property it changes that property alone, to the same
  value.  The level of noise may be written as another that is
  no number either.  A name of no property changes nothing,
  and reads back as nothing.
-/
theorem properties_read_back
    (name : String)
    (c : Context α) :
    (∀ (property : Property) (v : Value α),
      Text.upper name = property.name →
      c.estimator.hasProperty property = true →
      1 ≤ c.shared.processors →
      ((set (.text name) v).run c).1.result = .ok .done →
      let after := ((set (.text name) v).run c).2
      let settings := after.estimator.settings
      (property.isWhole →
        (settings.get property).length ≤ Decimal.maxDigits) →
      (∀ level,
        property = .noise → settings.noise = some level →
          Literal.ReadsBack level) →
      ∃ text source,
        source.Same settings ∧
        (get (.text name)).run after =
          (⟨[], .ok (.text (some text))⟩, after) ∧
        (set (.text name) (.text text)).run after =
          (⟨[], .ok .done⟩, after.adjusted fun _ => source) ∧
        ∀ other : Context α,
          other.estimator.hasProperty property = true →
            (set (.text name) (.text text)).run other =
              (⟨[], .ok .done⟩,
                other.adjusted fun s =>
                  s.taking property source)) ∧
    ((∀ property : Property,
        Text.upper name ≠ property.name) →
      (∀ v : Value α,
        (set (.text name) v).run c = (⟨[], .ok .done⟩, c)) ∧
      (get (.text name)).run c =
        (⟨[], .ok (.text none)⟩, c)) := by
  constructor
  · intro property v hName hHas hProcessors hDone
    have hNamed := Estimator.property_of_name hName hHas
    rcases exists_of_run_set hNamed hDone with
      ⟨settings, hSet, hRun⟩
    rw [hRun]
    intro after _ hShort hLevel
    rcases Settings.set_get hProcessors hSet hShort hLevel with
      ⟨source, hSame, hTaking, hTaken⟩
    have hAfter :
        after.estimator.property (.text name) =
          .ok (some property) :=
      Estimator.property_of_name hName hHas
    have hAgain :
        (after.adjusted fun s => s.taking property source) =
          after.adjusted fun _ => source :=
      Context.adjusted_congr hTaking
    refine
      ⟨settings.get property, source, hSame, run_get hAfter,
        (run_set_of_forall hTaken hAfter).trans ?_, ?_⟩
    · rw [hAgain]
    · intro other hOther
      exact
        run_set_of_forall hTaken
          (Estimator.property_of_name hName hOther)
  · intro hUnknown
    have hNone :=
      Estimator.property_of_unknown c.estimator hUnknown
    exact
      ⟨fun v => run_set_of_ok (Estimator.set_of_none hNone _ v),
        run_get hNone⟩

/- Half a unit of noise, for one estimator and another. -/
theorem properties_read_back_doubles :
    let settings : Settings Float :=
      .initial (.whole 4) (.count 2)
    let e : Estimator Float :=
      .create (some (.counting .first)) settings
    let shared : Shared Float := .initial (some 2) default
    let other : Context Float :=
      ⟨.create (some (.counting .second))
          { settings with k := .whole 7 },
        .initial none default⟩
    let c : Context Float := ⟨e, shared⟩
    let name : Value Float := .text "noise_Level_to_add"
    let after := ((set name (.text " 5e-1 ")).run c).2
    (get name).run after =
        (⟨[], .ok (.text (some "0.5"))⟩, after) ∧
      ((set name (.text "0.5")).run other).1.result =
        .ok .done ∧
      (set (.text "noise") (.text "0.5")).run c =
        (⟨[], .ok .done⟩, c) := by
  intro settings e shared other c name after
  have hName :
      Text.upper "noise_Level_to_add" = Property.noise.name :=
    by decide
  have hUnknown :
      ∀ property : Property,
        Text.upper "noise" ≠ property.name := by
    intro property
    cases property <;> decide
  have hDone :
      ((set name (.text " 5e-1 ")).run c).1.result =
        .ok .done := rfl
  have hLevel : Literal.ReadsBack (0.5 : Float) :=
    ⟨0.5, rfl, .inl rfl⟩
  rcases (properties_read_back "noise_Level_to_add" c).1
      .noise (.text " 5e-1 ") hName rfl (by decide) hDone
      (fun hWhole => absurd hWhole (by decide))
      (fun level _ hNoise => by
        cases hNoise
        exact hLevel) with
    ⟨text, source, hSame, hGet, hAgain, hOther⟩
  have hShown :
      after.estimator.settings.get .noise = "0.5" := by
    decide +kernel
  have hText : text = "0.5" := by
    have hNamed :
        after.estimator.property name = .ok (some .noise) := rfl
    have hRead := (run_get hNamed).symm.trans hGet
    simp only [Option.map_some, hShown] at hRead
    cases hRead
    rfl
  subst hText
  refine ⟨hGet, ?_, ?_⟩
  · rw [hOther other rfl]
  · exact
      ((properties_read_back "noise" c).2 hUnknown).1
        (.text "0.5")

end Command

end NeighbourInfo
