import NeighbourInfo.Scalar.Double
import NeighbourInfo.Proofs.Fitting
import NeighbourInfo.Proofs.Session.Changes
import NeighbourInfo.Proofs.Session.Runs

/-
  What holds of every estimator that a session can come to.

  Key definitions include:
    * `NeighbourInfo.Settings.IsSound`
    * `NeighbourInfo.Estimator.IsSound`
    * `NeighbourInfo.Estimator.IsUntouched`
    * `NeighbourInfo.Session.NeverInitialises`

  Computations index and join the tables of an estimator
  without looking at their sizes again.  That they can do so
  is kept by every change of an estimator, and by those that
  an operation has made before it fails.

  This is proven by:
    * `NeighbourInfo.Settings.IsSound.set`
    * `NeighbourInfo.Estimator.IsSound.change`
    * `NeighbourInfo.Estimator.IsUntouched.change`
    * `NeighbourInfo.Session.keeps_soundness`
    * `NeighbourInfo.Session.untouched_of_run`
    * `NeighbourInfo.Session.isSound_of_run`
-/

------------------------------------------------------------
-- Soundness
------------------------------------------------------------

namespace NeighbourInfo

variable {α : Type} [Scalar α]

/- The value is a whole number from one on. -/
def Value.IsPositive
    (v : Value α) :
    Prop :=
  ∃ n, v.exactInt = .ok n ∧ 1 ≤ n

/- The settings can be computed with. -/
structure Settings.IsSound
    (s : Settings α) :
    Prop where
  k : s.k.IsPositive
  norm :
    s.norm.name ∈
      ["MAX_NORM", "EUCLIDEAN", "EUCLIDEAN_SQUARED"]
  noise : s.noise = none → s.noiseLevel = 0
  threads : 1 ≤ s.threads.toNat
  window : 0 ≤ (s.window : Int)

/- New estimators are given settings that are sound. -/
structure Shared.IsSound
    (s : Shared α) :
    Prop where
  processors : 1 ≤ s.processors
  defaultK : s.defaultK.IsPositive
  threads : 1 ≤ s.threadCount.toNat

/-
  The tables of the observations and of every open chunk fit,
  and there are only such as may be there.
-/
structure Estimator.IsSound
    (e : Estimator α) :
    Prop where
  observations :
    ∀ data, e.observations = some data →
      1 ≤ data.size ∧ data.Fits e.dimensions
  pending :
    ∀ chunks, e.pending = some chunks →
      ∀ chunk ∈ chunks, chunk.Fits e.dimensions
  uninitialised :
    e.isInitialised = false →
      e.observations = none ∧ e.pending = none
  computed :
    e.isComputed = true → e.observations.isSome = true
  notComputed :
    e.isComputed = false → e.shownAverage = Scalar.nan
  settings : e.settings.IsSound

end NeighbourInfo

------------------------------------------------------------
-- Settings
------------------------------------------------------------

namespace NeighbourInfo

variable {α : Type} [Scalar α] [Literal α]

/- Every norm goes by one of the three names. -/
theorem Norm.name_mem
    (norm : Norm) :
    norm.name ∈
      ["MAX_NORM", "EUCLIDEAN", "EUCLIDEAN_SQUARED"] := by
  cases norm <;> simp [name]

/- A number of threads that was read is at least one. -/
theorem ThreadCount.one_le_of_ofValue
    {processors : Nat}
    (hProcessors : 1 ≤ processors)
    {v : Value α}
    {threads : Nat}
    (hOk : ofValue processors v = .ok threads) :
    1 ≤ threads := by
  have hNumber :
      ∀ {read : Except (Error α) Int},
        (do
            let n ← read
            if n < 1 then throw (Error.smallThreads n)
            return n.toNat) =
          .ok threads →
        1 ≤ threads := by
    intro read hOk
    rcases exists_of_bind_eq_ok hOk with ⟨n, -, hOk⟩
    by_cases hSmall : n < 1
    · rw [if_pos hSmall] at hOk
      cases hOk
    · rw [if_neg hSmall] at hOk
      cases hOk
      omega
  unfold ofValue at hOk
  split at hOk
  · next s =>
      by_cases hAll : Text.upper (Text.strip s) = allWord
      · rw [if_pos hAll] at hOk
        cases hOk
        exact hProcessors
      · rw [if_neg hAll] at hOk
        exact hNumber hOk
  · exact hNumber hOk

namespace Settings

/- A number of neighbours that was read is at least one. -/
theorem one_le_of_readNeighbours
    {v : Value α}
    {k : Int}
    (hOk : readNeighbours v = .ok k) :
    1 ≤ k := by
  unfold readNeighbours at hOk
  rcases exists_of_bind_eq_ok hOk with ⟨n, -, hOk⟩
  by_cases hSmall : n < 1
  · rw [if_pos hSmall] at hOk
    cases hOk
  · rw [if_neg hSmall] at hOk
    cases hOk
    omega

/- A value that is taken for a property is a sound one. -/
theorem IsSound.set
    {s : Settings α}
    (hSound : s.IsSound)
    {processors : Nat}
    (hProcessors : 1 ≤ processors)
    {property : Property}
    {v : Value α}
    {after : Settings α}
    (hOk : s.set processors property v = .ok after) :
    after.IsSound := by
  unfold Settings.set at hOk
  cases property with
  | neighbours =>
      rcases exists_of_bind_eq_ok hOk with ⟨k, hRead, hOk⟩
      cases hOk
      exact
        { hSound with
          k := ⟨k, rfl, one_le_of_readNeighbours hRead⟩ }
  | norm =>
      rcases exists_of_bind_eq_ok hOk with ⟨norm, -, hOk⟩
      cases hOk
      exact { hSound with norm := norm.name_mem }
  | noise =>
      rcases exists_of_bind_eq_ok hOk with ⟨level, -, hOk⟩
      cases hOk
      exact { hSound with noise := nofun }
  | threads =>
      rcases exists_of_bind_eq_ok hOk with
        ⟨threads, hRead, hOk⟩
      cases hOk
      have hOne :=
        ThreadCount.one_le_of_ofValue hProcessors hRead
      exact { hSound with threads := hOne }
  | normalise =>
      rcases exists_of_bind_eq_ok hOk with ⟨b, -, hOk⟩
      cases hOk
      exact { hSound with }
  | window =>
      rcases exists_of_bind_eq_ok hOk with ⟨w, -, hOk⟩
      cases hOk
      exact { hSound with window := Int.natCast_nonneg w }

end Settings

end NeighbourInfo

------------------------------------------------------------
-- Defaults
------------------------------------------------------------

namespace NeighbourInfo

variable {α : Type} [Scalar α]

namespace Shared

/- A session begins with sound defaults. -/
theorem isSound_initial
    (processors : Option Nat)
    (chance : Chance α) :
    (initial processors chance).IsSound where
  processors := Nat.le_max_left _ _
  defaultK := ⟨4, rfl, by decide⟩
  threads := Nat.le_max_left _ _

theorem IsSound.newSettings
    {s : Shared α}
    (hSound : s.IsSound) :
    s.newSettings.IsSound where
  k := hSound.defaultK
  norm := Norm.maximum.name_mem
  noise := fun _ => rfl
  threads := hSound.threads
  window := Int.le_refl 0

end Shared

/- A default that was chosen is at least one thread. -/
theorem ThreadDefault.one_le_of_choose
    {choice processors : Value α}
    {threads : ThreadDefault}
    (hOk : choose choice processors = .ok (some threads))
    {count : Nat}
    (hCount : 1 ≤ count) :
    1 ≤ (threads.threads count).toNat := by
  unfold choose at hOk
  rcases exists_of_bind_eq_ok hOk with ⟨isGiven, -, hOk⟩
  split at hOk
  · cases hOk
  · cases hOk
    exact hCount
  · cases hOk
    exact Nat.le_refl 1
  · cases hOk
    exact Nat.le_refl 1
  · next n _ =>
      by_cases hPositive : 0 < n
      · rw [if_pos hPositive] at hOk
        cases hOk
        change 1 ≤ n.toNat
        omega
      · rw [if_neg hPositive] at hOk
        cases hOk
  · cases hOk

end NeighbourInfo

------------------------------------------------------------
-- Changes
------------------------------------------------------------

namespace NeighbourInfo

namespace Estimator

variable {α : Type} [Scalar α]
variable {e after : Estimator α}

/- A new estimator is sound if its settings are. -/
theorem isSound_create
    {settings : Settings α}
    (hSettings : settings.IsSound)
    (method : Option (Method α)) :
    (create method settings).IsSound where
  observations := nofun
  pending := nofun
  uninitialised := fun _ => ⟨rfl, rfl⟩
  computed := nofun
  notComputed := fun _ => rfl
  settings := hSettings

/- A value is only kept where there are observations. -/
theorem IsSound.keeping
    (hSound : e.IsSound)
    (hData : e.observations.isSome = true)
    (value : α) :
    (e.keeping value).IsSound :=
  { hSound with
    computed := fun _ => hData
    notComputed := nofun }

variable [Literal α]

/- Initialising leaves nothing that could not fit. -/
theorem IsSound.initialise
    (hSound : e.IsSound)
    {dims : Value α}
    (hOk : e.initialise dims = .ok after) :
    after.IsSound := by
  rcases eq_of_initialise hOk with ⟨dimensions, rfl⟩
  exact
    { observations := nofun
      pending := nofun
      uninitialised := nofun
      computed := nofun
      notComputed := fun _ => rfl
      settings := hSound.settings }

/-
  Every other change keeps an estimator sound.  The tables to
  be installed come from open chunks, of which there are none
  before an estimator is initialised.
-/
theorem IsSound.change
    (hSound : e.IsSound)
    {processors : Nat}
    (hProcessors : 1 ≤ processors)
    (hChange : e.Change processors after) :
    after.IsSound := by
  cases hChange with
  | set hOk =>
      rcases eq_of_set hOk with
        rfl | ⟨property, settings, hSet, rfl⟩
      · exact hSound
      · exact
          { hSound with
            settings := hSound.settings.set hProcessors hSet }
  | setDebug debug =>
      exact
        { hSound with
          settings := { hSound.settings with } }
  | start hOk =>
      rcases eq_of_start hOk with ⟨hReady, rfl⟩
      refine
        { hSound with
          pending := ?_
          uninitialised := ?_ }
      · intro chunks hChunks chunk hChunk
        cases hChunks
        cases hChunk
      · intro hNot
        exact absurd (hReady.symm.trans hNot) (by simp)
  | add hOk =>
      rcases eq_of_add hOk with
        ⟨chunks, chunk, kept, hPending, hChunk, hKept, rfl⟩
      refine
        { hSound with
          pending := ?_
          uninitialised := ?_ }
      · intro opened hOpened
        cases hOpened
        have hFits :=
          Observations.fits_masked
            (Observations.fits_ofValues hChunk) hKept
        intro former hFormer
        rcases List.mem_append.mp hFormer with hFormer | hNew
        · exact hSound.pending chunks hPending former hFormer
        · rw [List.mem_singleton.mp hNew]
          exact hFits
      · intro hNot
        have hNone := (hSound.uninitialised hNot).2
        exact absurd (hPending.symm.trans hNone) (by simp)
  | close hOk =>
      rcases eq_of_close hOk with ⟨hPending, rfl⟩
      exact
        { hSound with
          pending := nofun
          uninitialised := fun hNot =>
            ⟨(hSound.uninitialised hNot).1, rfl⟩ }
  | install hClose hOk =>
      rename_i chunks closed
      rcases eq_of_close hClose with ⟨hPending, rfl⟩
      rcases eq_hold_of_install hOk with ⟨hRows, rfl⟩
      refine
        { hSound with
          observations := ?_
          pending := nofun
          uninitialised := ?_
          computed := nofun
          notComputed := fun _ => rfl }
      · intro data hData
        cases hData
        have hFits :=
          Observations.fits_concat
            (hSound.pending chunks hPending) hRows
        refine ⟨?_, hFits.prepared _⟩
        rw [Observations.size_prepared]
        exact Nat.one_le_iff_ne_zero.mpr hRows
      · intro hNot
        have hNone := (hSound.uninitialised hNot).2
        exact absurd (hPending.symm.trans hNone) (by simp)
  | addNoise hFresh hOk =>
      rcases eq_of_addNoise hOk with
        rfl | ⟨level, data, hData, rfl⟩
      · exact hSound
      · rcases hSound.observations data hData with
          ⟨hRows, hFits⟩
        refine
          { hSound with
            observations := ?_
            uninitialised := ?_
            computed := fun _ => rfl }
        · intro noisy hNoisy
          cases hNoisy
          refine ⟨?_, hFits.withNoise level _⟩
          rw [Observations.size_withNoise]
          exact hRows
        · intro hNot
          have hNone := (hSound.uninitialised hNot).1
          exact absurd (hData.symm.trans hNone) (by simp)
  | average hOk =>
      exact hSound.keeping (isSome_of_evaluation hOk) _
  | locals hOk =>
      exact hSound.keeping (isSome_of_evaluation hOk) _

end Estimator

end NeighbourInfo

------------------------------------------------------------
-- Before The First Initialising
------------------------------------------------------------

namespace NeighbourInfo

namespace Estimator

variable {α : Type}

/- The estimator was not initialised and has no data at all. -/
structure IsUntouched
    (e : Estimator α) :
    Prop where
  isInitialised : e.isInitialised = false
  pending : e.pending = none
  observations : e.observations = none

theorem isUntouched_create
    (method : Option (Method α))
    (settings : Settings α) :
    (create method settings).IsUntouched :=
  ⟨rfl, rfl, rfl⟩

variable [Scalar α] [Literal α]
variable {e after : Estimator α}

/- Without open chunks there is nothing to be installed. -/
theorem IsUntouched.change
    (hUntouched : e.IsUntouched)
    {processors : Nat}
    (hChange : e.Change processors after) :
    after.IsUntouched := by
  have hOpen :
      ∀ chunks : List (Observations α),
        e.pending ≠ some chunks := by
    intro chunks hPending
    exact
      absurd (hPending.symm.trans hUntouched.pending) (by simp)
  cases hChange with
  | set hOk =>
      rcases eq_of_set hOk with
        rfl | ⟨property, settings, -, rfl⟩
      · exact hUntouched
      · exact { hUntouched with }
  | setDebug debug => exact { hUntouched with }
  | start hOk =>
      rcases eq_of_start hOk with ⟨hReady, -⟩
      have hNot := hUntouched.isInitialised
      exact absurd (hReady.symm.trans hNot) (by simp)
  | add hOk =>
      rcases eq_of_add hOk with
        ⟨chunks, chunk, kept, hPending, -⟩
      exact absurd hPending (hOpen chunks)
  | close hOk =>
      exact absurd (eq_of_close hOk).1 (hOpen _)
  | install hClose hOk =>
      exact absurd (eq_of_close hClose).1 (hOpen _)
  | addNoise hFresh hOk =>
      rcases eq_of_addNoise hOk with
        rfl | ⟨level, data, hData, -⟩
      · exact hUntouched
      · have hNone := hUntouched.observations
        exact absurd (hData.symm.trans hNone) (by simp)
  | average hOk => exact { hUntouched with }
  | locals hOk => exact { hUntouched with }

end Estimator

end NeighbourInfo

------------------------------------------------------------
-- Commands
------------------------------------------------------------

namespace NeighbourInfo

namespace Command

variable {α : Type} [Scalar α] [Literal α]

/- No other command than to initialise brings in data. -/
theorem keeps_untouched
    {command : Command α}
    (hOther : ∀ dims, command ≠ .initialise dims) :
    Transition.Keeps
      (fun c : Context α => c.estimator.IsUntouched)
      command.run := by
  refine keeps_run ?_ command fun dims hSame => ?_
  · intro c after hChange hUntouched
    refine hChange.keeps_estimator ?_ hUntouched
    exact fun _ _ _ hChange hBefore => hBefore.change hChange
  · exact absurd hSame (hOther dims)

end Command

end NeighbourInfo

------------------------------------------------------------
-- Sessions
------------------------------------------------------------

namespace NeighbourInfo

namespace Session

variable {α : Type} [Scalar α] [Literal α]

/- What a change leaves of a context is sound. -/
theorem isSound_of_change
    {c after : Context α}
    (hChange : c.Change after)
    (hSound : c.shared.IsSound ∧ c.estimator.IsSound) :
    after.shared.IsSound ∧ after.estimator.IsSound := by
  rcases hSound with ⟨hShared, hEstimator⟩
  cases hChange with
  | estimator hChange =>
      exact
        ⟨hShared,
          hEstimator.change hShared.processors hChange⟩
  | record computation => exact ⟨{ hShared with }, hEstimator⟩
  | draw chance => exact ⟨{ hShared with }, hEstimator⟩

/-
  A request keeps all estimators sound, and the defaults, as
  long as it does not itself set a default that is not.
-/
theorem keeps_soundness
    (request : Request α)
    (hDefault :
      ∀ k, request = .setDefaultK k → k.IsPositive) :
    Transition.Keeps
      (Holds Shared.IsSound Estimator.IsSound)
      (step request) := by
  refine keeps_step ?_ ?_ request ?_ ?_
  · intro method shared hShared
    exact Estimator.isSound_create hShared.newSettings method
  · intro choice processors threads hChoice shared hShared
    have hThreads :=
      ThreadDefault.one_le_of_choose hChoice
        hShared.processors
    exact { hShared with threads := hThreads }
  · intro k hRequest shared hShared
    exact { hShared with defaultK := hDefault k hRequest }
  · intro id command _
    refine command.keeps_run
      (fun _ _ hChange => isSound_of_change hChange) ?_
    intro dims _ c e hOk hSound
    exact ⟨hSound.1, hSound.2.initialise hOk⟩

/- No request to initialise the estimator was answered well. -/
def NeverInitialises
    (id : String)
    (exchanges :
      List (Request α × Report α (Answer α))) :
    Prop :=
  ∀ exchange ∈ exchanges, ∀ dims,
    exchange.1 = .command id (.initialise dims) →
      ∃ e, exchange.2.result = .error e

/-
  A request leaves an estimator without data that is without,
  unless it was to initialise it and did so.
-/
theorem untouched_of_step
    {id : String}
    {request : Request α}
    {s : Session α}
    (hNever :
      NeverInitialises id [(request, (step request s).1)])
    (hBefore :
      ∀ e, s.estimator? id = some e → e.IsUntouched)
    {e : Estimator α}
    (hAfter : (step request s).2.estimator? id = some e) :
    e.IsUntouched := by
  rw [estimator?_step] at hAfter
  split at hAfter
  · next other method =>
      split at hAfter
      · cases hAfter
        exact Estimator.isUntouched_create _ _
      · exact hBefore e hAfter
  · next other command =>
      split at hAfter
      · next hSame =>
          subst hSame
          rcases Option.map_eq_some_iff.mp hAfter with
            ⟨former, hFormer, rfl⟩
          have hRun :
              (step (.command id command) s).1 =
                (command.run ⟨former, s.shared⟩).1 := by
            rw [step_command, onEstimator_of_some hFormer]
          by_cases hDims : ∃ dims, command = .initialise dims
          · rcases hDims with ⟨dims, rfl⟩
            rcases hNever _ List.mem_cons_self dims rfl with
              ⟨refusal, hRefusal⟩
            rw [hRun] at hRefusal
            rw [Command.isAtomic_initialise dims _ refusal
              hRefusal]
            exact hBefore former hFormer
          · exact
              Command.keeps_untouched
                (fun dims hSame => hDims ⟨dims, hSame⟩)
                ⟨former, s.shared⟩ (hBefore former hFormer)
      · exact hBefore e hAfter
  · exact hBefore e hAfter

/- So does a run in which nothing initialised it. -/
theorem untouched_of_run
    {id : String}
    {requests : List (Request α)}
    {s : Session α}
    (hNever :
      NeverInitialises id (s.exchanges requests))
    (hBefore :
      ∀ e, s.estimator? id = some e → e.IsUntouched)
    {e : Estimator α}
    (hAfter : (s.run requests).2.estimator? id = some e) :
    e.IsUntouched := by
  induction requests generalizing s with
  | nil => exact hBefore e hAfter
  | cons request requests ih =>
      rw [run_cons] at hAfter
      rw [exchanges_cons] at hNever
      refine ih ?_ ?_ hAfter
      · intro exchange hExchange
        exact hNever exchange (List.mem_cons_of_mem _ hExchange)
      · intro e' hStep
        refine untouched_of_step ?_ hBefore hStep
        intro exchange hExchange
        rw [List.mem_singleton.mp hExchange]
        exact hNever _ List.mem_cons_self

/- So does one that began with making the estimator. -/
theorem untouched_since_create
    {s : Session α}
    {id : String}
    {method : Option (Method α)}
    {later : List (Request α)}
    (hNever :
      NeverInitialises id
        (s.exchanges (.create id method :: later)))
    {e : Estimator α}
    (hAfter :
      (s.run (.create id method :: later)).2.estimator? id =
        some e) :
    e.IsUntouched := by
  rw [run_cons] at hAfter
  rw [exchanges_cons] at hNever
  refine untouched_of_run ?_ ?_ hAfter
  · intro exchange hExchange
    exact hNever exchange (List.mem_cons_of_mem _ hExchange)
  · intro e' hNew
    rw [estimator?_step] at hNew
    dsimp only at hNew
    rw [if_pos rfl] at hNew
    cases hNew
    exact Estimator.isUntouched_create _ _

/-
  Whatever has been asked for, with the default number of
  neighbours always a whole one from one on, every estimator
  of the session is sound.  From when it is made until it is
  first initialised there are neither observations nor open
  chunks.
-/
theorem isSound_of_run
    (processors : Option Nat)
    (chance : Chance α)
    (requests : List (Request α))
    (hDefaults :
      ∀ k, .setDefaultK k ∈ requests → k.IsPositive) :
    let s :=
      ((initial (.initial processors chance)).run requests).2
    (∀ id e, s.estimator? id = some e → e.IsSound) ∧
      ∀ id method later,
        let more : List (Request α) :=
          .create id method :: later
        NeverInitialises id (s.exchanges more) →
          ∀ e, (s.run more).2.estimator? id = some e →
            e.observations = none ∧ e.pending = none := by
  intro s
  constructor
  · have hInitial :=
      holds_initial Estimator.IsSound
        (Shared.isSound_initial processors chance)
    have hStep :
        ∀ request ∈ requests,
          Transition.Keeps
            (Holds Shared.IsSound Estimator.IsSound)
            (step request) := by
      intro request hRequest
      refine keeps_soundness request fun k hK => ?_
      exact hDefaults k (hK ▸ hRequest)
    exact (keeps_run hStep hInitial).2
  · intro id method later more hNever e hAfter
    have hUntouched := untouched_since_create hNever hAfter
    exact ⟨hUntouched.observations, hUntouched.pending⟩

/- Data of an estimator, and a new one that refuses to start. -/
theorem isSound_of_run_doubles :
    let column (entries : List Float) : Value Float :=
      .list (entries.map .real)
    let requests : List (Request Float) :=
      [.setDefaultK (.whole 3),
        .create "first" (some (.counting .first)),
        .command "first" (.initialise (.list [])),
        .command "first"
          (.setObservations (column [0, 1]) (column [2, 5])
            (column [1, 1]))]
    let s := ((initial (.initial none default)).run requests).2
    let more : List (Request Float) :=
      [.create "second" none,
        .command "second" (.initialise (.list [.whole 0])),
        .command "second" .start]
    (∀ k, .setDefaultK k ∈ requests → k.IsPositive) ∧
      NeverInitialises "second" (s.exchanges more) ∧
      (∃ e, s.estimator? "first" = some e ∧ e.IsSound) ∧
      ∃ e, (s.run more).2.estimator? "second" = some e ∧
        e.observations = none ∧ e.pending = none := by
  intro column requests s more
  have hDefaults :
      ∀ k, .setDefaultK k ∈ requests → k.IsPositive := by
    intro k hK
    have hThree : k = .whole 3 := by
      simpa [requests] using hK
    exact hThree ▸ ⟨3, rfl, by decide⟩
  have hNever :
      NeverInitialises "second" (s.exchanges more) := by
    intro exchange hExchange dims hDims
    simp only [more, exchanges_cons,
      List.mem_cons] at hExchange
    rcases hExchange with rfl | rfl | rfl | hNone
    · cases hDims
    · exact ⟨.smallDimension, rfl⟩
    · cases hDims
    · cases hNone
  rcases isSound_of_run none default requests hDefaults with
    ⟨hSound, hUntouched⟩
  have hFirst : ∃ e, s.estimator? "first" = some e := ⟨_, rfl⟩
  have hSecond :
      ∃ e, (s.run more).2.estimator? "second" = some e :=
    ⟨_, rfl⟩
  rcases hFirst with ⟨first, hFirst⟩
  rcases hSecond with ⟨second, hSecond⟩
  exact
    ⟨hDefaults, hNever,
      ⟨first, hFirst, hSound "first" first hFirst⟩,
      second, hSecond,
      hUntouched "second" none _ hNever second hSecond⟩

end Session

end NeighbourInfo
