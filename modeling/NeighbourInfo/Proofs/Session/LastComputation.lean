import NeighbourInfo.Scalar.Double
import NeighbourInfo.Proofs.Recording
import NeighbourInfo.Proofs.Session.Changes
import NeighbourInfo.Proofs.Session.Events
import NeighbourInfo.Proofs.Session.Failure
import NeighbourInfo.Proofs.Session.Runs

/-
  What a session tells of its last computation.

  Key definitions include:
    * `NeighbourInfo.Computed`
    * `NeighbourInfo.Summary.Describes`
    * `NeighbourInfo.Summary.HasMeansOf`
    * `NeighbourInfo.Command.computed`
    * `NeighbourInfo.Session.computed`

  The estimators of a session share one summary.  Each average
  and each list of local values is recorded in it, those of
  surrogates one by one, and what fails is not.  The number of
  points, the threads and the blocks are therefore those of
  the last computation.  The mean counts are those of the last
  average: local values come without means, and leave the ones
  that were there, also those of other observations.

  This is proven by:
    * `NeighbourInfo.Summary.Follows.describes`
    * `NeighbourInfo.Summary.Follows.hasMeansOf`
    * `NeighbourInfo.Command.follows_run`
    * `NeighbourInfo.Session.summary_of_run`
    * `NeighbourInfo.Session.summary_mixed`
-/

------------------------------------------------------------
-- Computations And Their Records
------------------------------------------------------------

namespace NeighbourInfo

namespace Summary

variable {α : Type}

theorem record_of_some
    {s : Summary α}
    {c : Computation α}
    {means : Sums α}
    (hMeans : c.means = some means) :
    s.record c =
      ⟨c.points, c.threads, c.blocks, means.xz, means.yz,
        means.z⟩ := by
  rw [record, hMeans]

theorem record_of_none
    {s : Summary α}
    {c : Computation α}
    (hMeans : c.means = none) :
    s.record c =
      { s with
        points := c.points
        threads := c.threads
        blocks := c.blocks } := by
  rw [record, hMeans]

end Summary

/-
  An estimator as it stood when something was computed from
  it: an average, or else local values.
-/
structure Computed (α : Type) where
  estimator : Estimator α
  isAverage : Bool

variable {α : Type} [Scalar α]

/-
  The numbers are the means, over the points that an estimator
  holds, of the counts that each of the points has.
-/
def Estimator.AreMeans
    (e : Estimator α)
    (xz : α)
    (yz : α)
    (z : α) :
    Prop :=
  ∃ (m : Method α) (algorithm : Algorithm)
      (data : Observations α) (blocks : List Block),
    e.method = some m ∧
    m.algorithm = some algorithm ∧
    e.observations = some data ∧
    blocks.length = e.settings.threads.toNat ∧
    Block.Tiles 0 blocks data.size ∧
    let counts := data.countsOf algorithm e.settings.search
    (∀ i < data.size,
      data.countsAt algorithm e.settings.search i =
        .ok (counts i)) ∧
    let mean (count : Counts → Nat) : α :=
      Block.total blocks (fun i => count (counts i)) /
        Scalar.ofNat data.size
    let exactMean (count : Counts → Nat) : α :=
      Scalar.ofNat
          ((List.range data.size).map fun i =>
            count (counts i)).sum /
        Scalar.ofNat data.size
    (xz = mean (·.xz) ∧ yz = mean (·.yz) ∧ z = mean (·.z)) ∧
    (Scalar.ExactSums α →
      xz = exactMean (·.xz) ∧ yz = exactMean (·.yz) ∧
        z = exactMean (·.z))

namespace Summary

/- The points, threads and blocks are those of an estimator. -/
def Describes
    (s : Summary α)
    (e : Estimator α) :
    Prop :=
  ∃ data,
    e.observations = some data ∧
      s.points = data.size ∧
      s.threads = e.settings.threads ∧
      s.blocks.length = e.settings.threads.toNat ∧
      Block.Tiles 0 s.blocks data.size

/- The mean counts are those of an estimator. -/
def HasMeansOf
    (s : Summary α)
    (e : Estimator α) :
    Prop :=
  e.AreMeans s.meanXZ s.meanYZ s.meanZ

end Summary

/- The record tells of what was computed. -/
def Computation.IsOf
    (w : Computed α)
    (c : Computation α) :
    Prop :=
  (∃ data,
    w.estimator.observations = some data ∧
      c.points = data.size ∧
      c.threads = w.estimator.settings.threads ∧
      c.blocks.length =
        w.estimator.settings.threads.toNat ∧
      Block.Tiles 0 c.blocks data.size) ∧
  match c.means with
  | some means =>
      w.isAverage = true ∧
        w.estimator.AreMeans means.xz means.yz means.z
  | none => w.isAverage = false

/-
  A summary comes from another one by the records of what was
  computed, one after the other.
-/
inductive Summary.Follows
    (before : Summary α) :
    List (Computed α) → Summary α → Prop where
  | refl : Follows before [] before
  | record
      {log : List (Computed α)}
      {between : Summary α}
      (hFollows : Follows before log between)
      {w : Computed α}
      {c : Computation α}
      (hIsOf : c.IsOf w) :
      Follows before (log ++ [w]) (between.record c)

namespace Summary

variable {before after : Summary α} {log : List (Computed α)}

theorem follows_single
    (s : Summary α)
    {w : Computed α}
    {c : Computation α}
    (hIsOf : c.IsOf w) :
    s.Follows [w] (s.record c) :=
  Follows.refl.record hIsOf

theorem Follows.trans
    {between : Summary α}
    {next : List (Computed α)}
    (hFirst : before.Follows log between)
    (hSecond : between.Follows next after) :
    before.Follows (log ++ next) after := by
  induction hSecond with
  | refl =>
      rw [List.append_nil]
      exact hFirst
  | record _ hIsOf ih =>
      rw [← List.append_assoc]
      exact ih.record hIsOf

/- The last of all that was computed is described. -/
theorem Follows.describes
    (hFollows : before.Follows log after)
    {w : Computed α}
    (hLast : log.getLast? = some w) :
    after.Describes w.estimator := by
  cases hFollows with
  | refl => cases hLast
  | record _ hIsOf =>
      rw [List.getLast?_concat] at hLast
      cases hLast
      rcases hIsOf.1 with
        ⟨data, hData, hPoints, hThreads, hBlocks⟩
      refine ⟨data, hData, ?_⟩
      unfold Summary.record
      split
      · exact ⟨hPoints, hThreads, hBlocks⟩
      · exact ⟨hPoints, hThreads, hBlocks⟩

/- The means are those of the last average. -/
theorem Follows.hasMeansOf
    (hFollows : before.Follows log after)
    {w : Computed α}
    (hLast :
      (log.filter Computed.isAverage).getLast? = some w) :
    after.HasMeansOf w.estimator := by
  induction hFollows with
  | refl => cases hLast
  | record _ hIsOf ih =>
      rename_i c
      have hMeans := hIsOf.2
      rw [List.filter_append] at hLast
      cases hKind : c.means with
      | some means =>
          rw [hKind] at hMeans
          rw [List.filter_singleton, hMeans.1, cond_true,
            List.getLast?_concat] at hLast
          cases hLast
          rw [record_of_some hKind]
          exact hMeans.2
      | none =>
          rw [hKind] at hMeans
          rw [List.filter_singleton, hMeans, cond_false,
            List.append_nil] at hLast
          rw [record_of_none hKind]
          exact ih hLast

/- Nothing is changed where nothing was computed. -/
theorem Follows.eq_of_nil
    (hFollows : before.Follows [] after) :
    after = before := by
  generalize hLog : ([] : List (Computed α)) = log
    at hFollows
  cases hFollows with
  | refl => rfl
  | record => simp at hLog

/- Local values alone leave the means that were there. -/
theorem Follows.means_eq
    (hFollows : before.Follows log after)
    (hNone : log.filter Computed.isAverage = []) :
    after.meanXZ = before.meanXZ ∧
      after.meanYZ = before.meanYZ ∧
      after.meanZ = before.meanZ := by
  induction hFollows with
  | refl => exact ⟨rfl, rfl, rfl⟩
  | record _ hIsOf ih =>
      rename_i c
      have hMeans := hIsOf.2
      rw [List.filter_append, List.append_eq_nil_iff] at hNone
      cases hKind : c.means with
      | some means =>
          rw [hKind] at hMeans
          rw [List.filter_singleton, hMeans.1] at hNone
          exact absurd hNone.2 (by simp)
      | none =>
          rw [record_of_none hKind]
          exact ih hNone.1

end Summary

end NeighbourInfo

------------------------------------------------------------
-- Evaluations
------------------------------------------------------------

namespace NeighbourInfo

namespace Estimator

variable {α : Type} [Scalar α]

/- The kernel of the estimator sums up counts of points. -/
def IsFaithful
    (e : Estimator α) :
    Prop :=
  ∀ m, e.method = some m → m.kernel.IsFaithful

/- Sums over blocks that tile the points make their means. -/
private theorem areMeans_ofBlocks
    {e : Estimator α}
    {m : Method α}
    (hMethod : e.method = some m)
    {algorithm : Algorithm}
    (hAlgorithm : m.algorithm = some algorithm)
    {data : Observations α}
    (hData : e.observations = some data)
    {blocks : List Block}
    (hLength : blocks.length = e.settings.threads.toNat)
    (hTiles : Block.Tiles 0 blocks data.size)
    (hEach :
      ∀ i < data.size,
        data.countsAt algorithm e.settings.search i =
          .ok (data.countsOf algorithm e.settings.search i)) :
    let means :=
      (Sums.ofBlocks algorithm blocks
          (data.countsOf algorithm e.settings.search)).dividedBy
        (Scalar.ofNat data.size)
    e.AreMeans means.xz means.yz means.z := by
  let counts := data.countsOf algorithm e.settings.search
  have hXZ :
      (Sums.ofBlocks algorithm blocks counts).xz =
        (Block.total blocks fun i => (counts i).xz : α) :=
    Sums.part_ofBlocks rfl (fun _ _ => rfl) (fun _ => rfl) _ _
  have hYZ :
      (Sums.ofBlocks algorithm blocks counts).yz =
        (Block.total blocks fun i => (counts i).yz : α) :=
    Sums.part_ofBlocks rfl (fun _ _ => rfl) (fun _ => rfl) _ _
  have hZ :
      (Sums.ofBlocks algorithm blocks counts).z =
        (Block.total blocks fun i => (counts i).z : α) :=
    Sums.part_ofBlocks rfl (fun _ _ => rfl) (fun _ => rfl) _ _
  have hMean :
      ∀ {sum total : α}, sum = total →
        sum / Scalar.ofNat data.size =
          total / Scalar.ofNat data.size :=
    fun hSum => congrArg (· / Scalar.ofNat data.size) hSum
  refine
    ⟨m, algorithm, data, blocks, hMethod, hAlgorithm, hData,
      hLength, hTiles, hEach,
      ⟨hMean hXZ, hMean hYZ, hMean hZ⟩, ?_⟩
  intro hExact
  exact
    ⟨hMean (hXZ.trans (Block.total_of_tiles hTiles _)),
      hMean (hYZ.trans (Block.total_of_tiles hTiles _)),
      hMean (hZ.trans (Block.total_of_tiles hTiles _))⟩

/- What is recorded of an average is that of the estimator. -/
theorem IsFaithful.isOf_averaging
    {e : Estimator α}
    (hFaithful : e.IsFaithful)
    {computation : Computation α}
    {value : α}
    (hOk : e.averaging.result = .ok (computation, value)) :
    computation.IsOf ⟨e, true⟩ := by
  unfold averaging evaluation at hOk
  split at hOk
  · cases hOk
  · cases hOk
  · next m data hMethod hData =>
      unfold Method.average Method.config at hOk
      rcases Report.exists_of_bind_ok hOk with
        ⟨config, hConfig, hOk⟩
      rw [Report.result_ofExcept] at hConfig
      split at hConfig
      · next algorithm hAlgorithm =>
          cases hConfig
          rcases
              Evaluation.recorded_of_average
                (hFaithful m hMethod) hOk with
            ⟨hPoints, hThreads, hLength, hTiles, hMeans,
              hEach⟩
          refine
            ⟨⟨data, hData, hPoints, hThreads, hLength, hTiles⟩,
              ?_⟩
          rw [hMeans]
          exact
            ⟨rfl,
              areMeans_ofBlocks hMethod hAlgorithm hData
                hLength hTiles hEach⟩
      · cases hConfig

/- So is what is recorded of local values. -/
theorem isOf_localising
    {e : Estimator α}
    {computation : Computation α}
    {values : List α}
    (hOk :
      e.localising.result = .ok (computation, values)) :
    computation.IsOf ⟨e, false⟩ := by
  unfold localising evaluation at hOk
  split at hOk
  · cases hOk
  · cases hOk
  · next m data hMethod hData =>
      unfold Method.locals Method.config at hOk
      rcases Report.exists_of_bind_ok hOk with
        ⟨config, hConfig, hOk⟩
      rw [Report.result_ofExcept] at hConfig
      split at hConfig
      · next algorithm hAlgorithm =>
          cases hConfig
          rcases Evaluation.recorded_of_locals hOk with
            ⟨hPoints, hThreads, hLength, hTiles, hMeans⟩
          refine
            ⟨⟨data, hData, hPoints, hThreads, hLength, hTiles⟩,
              ?_⟩
          rw [hMeans]
      · cases hConfig

variable [Literal α] {e after : Estimator α}

/- No change takes the method away, or gives another one. -/
theorem Change.method_eq
    {processors : Nat}
    (hChange : e.Change processors after) :
    after.method = e.method := by
  cases hChange with
  | set hOk =>
      rcases eq_of_set hOk with
        rfl | ⟨property, settings, -, rfl⟩
      · rfl
      · rfl
  | setDebug debug => rfl
  | start hOk =>
      rcases eq_of_start hOk with ⟨-, rfl⟩
      rfl
  | add hOk =>
      rcases eq_of_add hOk with
        ⟨chunks, chunk, kept, -, -, -, rfl⟩
      rfl
  | close hOk =>
      rcases eq_of_close hOk with ⟨-, rfl⟩
      rfl
  | install hClose hOk =>
      rcases eq_of_close hClose with ⟨-, rfl⟩
      rcases eq_hold_of_install hOk with ⟨-, rfl⟩
      rfl
  | addNoise hFresh hOk =>
      rcases eq_of_addNoise hOk with
        rfl | ⟨level, data, -, rfl⟩
      · rfl
      · rfl
  | average hOk => rfl
  | locals hOk => rfl

end Estimator

namespace Context

variable {α : Type} [Scalar α] [Literal α]

/- The kernel stays as faithful as it was. -/
theorem Change.isFaithful
    {c after : Context α}
    (hChange : c.Change after)
    (hFaithful : c.estimator.IsFaithful) :
    after.estimator.IsFaithful := by
  refine hChange.keeps_estimator ?_ hFaithful
  intro processors e after hChange hBefore m hMethod
  rw [hChange.method_eq] at hMethod
  exact hBefore m hMethod

/-
  The estimator as it stands while an average is taken: with
  one table in a new order, if an order is given.
-/
def standing
    (chosen : Value α)
    (ordering : Value α)
    (c : Context α) :
    Estimator α :=
  match ordering with
  | .null => c.estimator
  | ordering =>
      match c.estimator.observations,
          Variable.ofValue chosen with
      | some data, .ok v =>
          match reorder (data.table v) ordering with
          | .ok t => c.estimator.withTable t v
          | .error _ => c.estimator
      | _, _ => c.estimator

/-
  What is computed when averages are taken one after the
  other, until one fails.
-/
def averaged
    (chosen : Value α) :
    List (Value α) → Context α → List (Computed α)
  | [], _ => []
  | ordering :: orderings, c =>
      let (report, after) := average chosen ordering c
      match report.result with
      | .ok _ =>
          ⟨c.standing chosen ordering, true⟩ ::
            averaged chosen orderings after
      | .error _ => []

end Context

namespace Command

variable {α : Type} [Scalar α] [Literal α]

/-
  What a command computes.  A significance takes the average
  as it is first, and then one on each of the surrogates.
-/
def computed
    (command : Command α)
    (c : Context α) :
    List (Computed α) :=
  match command with
  | .average chosen ordering => c.averaged chosen [ordering]
  | .locals =>
      match (Context.locals c).1.result with
      | .ok _ => [⟨c.estimator, false⟩]
      | .error _ => []
  | .significance chosen count orderings =>
      match Context.chosenOrderings chosen count orderings c with
      | (⟨_, .ok given⟩, between) =>
          between.averaged chosen
            (.null :: given.items?.getD [])
      | _ => []
  | _ => []

end Command

end NeighbourInfo

------------------------------------------------------------
-- Averages
------------------------------------------------------------

namespace NeighbourInfo

namespace Context

variable {α : Type} [Scalar α] [Literal α]

/- The tables alone differ while an average is taken. -/
theorem isFaithful_standing
    {c : Context α}
    (hFaithful : c.estimator.IsFaithful)
    (chosen : Value α)
    (ordering : Value α) :
    (c.standing chosen ordering).IsFaithful := by
  unfold standing
  split
  · exact hFaithful
  · split
    · split
      · exact hFaithful
      · exact hFaithful
    · exact hFaithful

theorem averaged_of_error
    {chosen ordering : Value α}
    {c : Context α}
    {e : Error α}
    (hError : (average chosen ordering c).1.result = .error e)
    (orderings : List (Value α)) :
    c.averaged chosen (ordering :: orderings) = [] := by
  simp only [averaged, hError]

theorem averaged_of_ok
    {chosen ordering : Value α}
    {c : Context α}
    {value : α}
    (hOk : (average chosen ordering c).1.result = .ok value)
    (orderings : List (Value α)) :
    c.averaged chosen (ordering :: orderings) =
      ⟨c.standing chosen ordering, true⟩ ::
        (average chosen ordering c).2.averaged chosen
          orderings := by
  simp only [averaged, hOk]

/- An average in a new order is that of the tables it makes. -/
theorem standing_of_reorder
    {c : Context α}
    {data : Observations α}
    (hData : c.estimator.observations = some data)
    {chosen ordering : Value α}
    (hGiven : ordering ≠ .null)
    {v : Variable}
    (hChosen : Variable.ofValue chosen = .ok v)
    {t : Table α}
    (hOrder : reorder (data.table v) ordering = .ok t) :
    c.standing chosen ordering = (c.withTable t v).estimator := by
  unfold standing
  split
  · exact absurd rfl hGiven
  · rw [hData, hChosen]
    dsimp only
    rw [hOrder]
    rfl

/- An average in a new order took an exchange of tables. -/
private theorem exists_exchange_of_reordered
    {c : Context α}
    {chosen ordering : Value α}
    {value : α}
    (hOk :
      (reorderedAverage chosen ordering c).1.result =
        .ok value) :
    ∃ data v t,
      c.estimator.observations = some data ∧
        Variable.ofValue chosen = .ok v ∧
        reorder (data.table v) ordering = .ok t ∧
        reorderedAverage chosen ordering c =
          exchanging v (data.table v) t
            (compute .notImplemented Method.average) c := by
  cases hMethod : c.estimator.method with
  | none =>
      unfold reorderedAverage at hOk
      rw [Transition.bind_error (method_of_none hMethod _)]
        at hOk
      cases hOk
  | some m =>
      cases hData : c.estimator.observations with
      | none =>
          have hFinalised := Estimator.finalised_of_none hData
          unfold reorderedAverage at hOk
          rw [Transition.bind_of_read
              (method_of_some hMethod _),
            estimator?_bind, hFinalised,
            Transition.ofExcept_error_bind] at hOk
          cases hOk
      | some data =>
          have hRun :=
            reorderedAverage_eq hMethod hData chosen ordering
          rw [hRun] at hOk
          cases hChosen : Variable.ofValue chosen with
          | error e =>
              rw [hChosen] at hOk
              cases hOk
          | ok v =>
              cases hOrder :
                  reorder (data.table v) ordering with
              | error e =>
                  simp only [hChosen, hOrder] at hOk
                  cases hOk
              | ok t =>
                  simp only [hChosen, hOrder] at hRun
                  exact ⟨data, v, t, rfl, rfl, hOrder, hRun⟩

/-
  An average that succeeds is recorded, and it is that of the
  tables which stood in the estimator.
-/
theorem exists_record_of_average
    {c : Context α}
    {chosen ordering : Value α}
    {value : α}
    (hOk : (average chosen ordering c).1.result = .ok value) :
    ∃ computation value,
      (c.standing chosen ordering).averaging.result =
          .ok (computation, value) ∧
        (average chosen ordering c).2.shared.summary =
          c.shared.summary.record computation := by
  by_cases hGiven : ordering = .null
  · subst hGiven
    change (plainAverage c).1.result = _ at hOk
    change ∃ _ _, _ ∧ (plainAverage c).2.shared.summary = _
    rw [plainAverage_eq] at hOk ⊢
    change ∃ _ _, c.estimator.averaging.result = _ ∧ _
    rcases hRun : c.estimator.averaging with
      ⟨notes, e | ⟨computation, value⟩⟩
    · rw [hRun] at hOk
      cases hOk
    · exact ⟨computation, value, rfl, rfl⟩
  · rw [average_of_ne chosen hGiven] at hOk ⊢
    rcases exists_exchange_of_reordered hOk with
      ⟨data, v, t, hData, hChosen, hOrder, hExchange⟩
    rw [hExchange, exchanging_eq hData (leaves_compute _ _),
      compute_eq] at hOk ⊢
    rw [standing_of_reorder hData hGiven hChosen hOrder]
    unfold Estimator.averaging
    rcases hRun :
        (c.withTable t v).estimator.evaluation .notImplemented
          Method.average with
      ⟨notes, e | ⟨computation, value⟩⟩
    · rw [hRun] at hOk
      cases hOk
    · exact ⟨computation, value, rfl, rfl⟩

/-
  An average fails and changes nothing, or it is recorded as
  what was computed from the tables that stood in the
  estimator.
-/
theorem follows_average
    {c : Context α}
    (hFaithful : c.estimator.IsFaithful)
    (chosen : Value α)
    (ordering : Value α) :
    c.shared.summary.Follows (c.averaged chosen [ordering])
      (average chosen ordering c).2.shared.summary := by
  cases hResult : (average chosen ordering c).1.result with
  | error e =>
      rw [averaged_of_error hResult,
        isAtomic_average chosen ordering c e hResult]
      exact .refl
  | ok value =>
      rcases exists_record_of_average hResult with
        ⟨computation, value, hAveraging, hSummary⟩
      rw [averaged_of_ok hResult, hSummary]
      apply Summary.follows_single
      exact
        (isFaithful_standing hFaithful chosen
          ordering).isOf_averaging hAveraging

/- So are local values, without an average. -/
theorem follows_locals
    (c : Context α) :
    c.shared.summary.Follows (Command.locals.computed c)
      (locals c).2.shared.summary := by
  unfold Command.computed
  dsimp only
  rw [locals_eq]
  rcases hRun : c.estimator.localising with
    ⟨notes, e | ⟨computation, values⟩⟩
  · exact .refl
  · apply Summary.follows_single
    exact Estimator.isOf_localising (by rw [hRun])

/- Averages one after the other are recorded in that order. -/
theorem follows_averages
    {c : Context α}
    (hFaithful : c.estimator.IsFaithful)
    (chosen : Value α)
    (orderings : List (Value α)) :
    c.shared.summary.Follows (c.averaged chosen orderings)
      (orderings.mapM (average chosen) c).2.shared.summary := by
  induction orderings generalizing c with
  | nil => exact .refl
  | cons ordering orderings ih =>
      have hFirst := follows_average hFaithful chosen ordering
      have hAfter :
          (average chosen ordering
            c).2.estimator.IsFaithful :=
        keeps_average (fun _ _ hChange => hChange.isFaithful)
          chosen ordering c hFaithful
      rw [List.mapM_cons]
      rcases hRun : average chosen ordering c with
        ⟨⟨notes, e | value⟩, after⟩
      · have hError :
            (average chosen ordering c).1.result =
              .error e := by
          rw [hRun]
        rw [averaged_of_error hError] at hFirst ⊢
        rw [Transition.bind_error hRun]
        rw [hRun] at hFirst
        exact hFirst
      · have hOk :
            (average chosen ordering c).1.result =
              .ok value := by
          rw [hRun]
        rw [averaged_of_ok hOk] at hFirst ⊢
        rw [hRun] at hFirst hAfter ⊢
        rw [Transition.bind_ok hRun]
        have hRest := ih hAfter
        have hState :=
          Transition.state_map
            (orderings.mapM (average chosen))
            (fun values => value :: values) after
        rw [hState]
        exact hFirst.trans hRest

end Context

end NeighbourInfo

------------------------------------------------------------
-- Commands
------------------------------------------------------------

namespace NeighbourInfo

namespace Context

section Estimators

variable {α : Type}

/- The summary that is shared. -/
def summary
    (c : Context α) :
    Summary α :=
  c.shared.summary

theorem summary_updateEstimator
    (f : Estimator α → Except (Error α) (Estimator α)) :
    Transition.Leaves summary (updateEstimator f) := by
  intro c
  cases hRun : f c.estimator with
  | error e => rw [updateEstimator_of_error hRun]
  | ok e =>
      rw [updateEstimator_of_ok hRun]
      rfl

end Estimators

variable {α : Type} [Scalar α]

theorem summary_finalise :
    Transition.Leaves summary (finalise (α := α)) := by
  intro c
  rw [finalise_eq]
  cases c.estimator.close with
  | error e => rfl
  | ok closing =>
      rcases closing with ⟨chunks, closed⟩
      dsimp only
      cases closed.install chunks with
      | error e => rfl
      | ok installed =>
          dsimp only
          cases installed.addNoise c.shared.chance with
          | error e => rfl
          | ok noisy => rfl

/- Drawing permutations changes the supply of chance only. -/
theorem summary_chosenOrderings
    (chosen : Value α)
    (count : Value α)
    (orderings : Value α) :
    Transition.Leaves summary
      (chosenOrderings chosen count orderings) := by
  unfold chosenOrderings chooseOrderings
  refine Transition.Leaves.bind (fun c => rfl) fun e => ?_
  refine (Transition.leaves_ofExcept _).bind fun data => ?_
  refine (Transition.leaves_ofExcept _).bind fun v => ?_
  split
  · refine (Transition.leaves_ofExcept _).bind fun n => ?_
    refine Transition.Leaves.bind ?_ fun drawn =>
      Transition.leaves_pure _
    intro c
    unfold onShared Shared.drawPermutations
    cases hDraw :
        c.shared.chance.permutations? (α := α) data.size n with
    | error e =>
        rw [Transition.change_error (by simp only [hDraw]; rfl)]
    | ok drawn =>
        rcases drawn with ⟨permutations, chance⟩
        rw [Transition.change_ok (by simp only [hDraw]; rfl)]
        rfl
  · exact Transition.leaves_pure _

variable [Literal α]

theorem summary_setObservations
    (x : Value α)
    (y : Value α)
    (z : Value α) :
    Transition.Leaves summary (setObservations x y z) := by
  unfold setObservations
  refine (summary_updateEstimator _).bind fun _ => ?_
  exact (summary_updateEstimator _).bind fun _ =>
    summary_finalise

/- The average as it is comes first, and then the surrogates. -/
theorem state_surrogates
    (chosen : Value α)
    (given : Value α)
    (c : Context α) :
    ((plainAverage >>= surrogates chosen given) c).2 =
      ((.null :: given.items?.getD []).mapM (average chosen)
        c).2 := by
  rw [List.mapM_cons]
  change
    _ =
      ((plainAverage >>= fun actual =>
          (given.items?.getD []).mapM (average chosen) >>=
            fun values => pure (actual :: values)) c).2
  rcases hRun : plainAverage c with
    ⟨⟨notes, e | actual⟩, after⟩
  · rw [Transition.bind_error hRun, Transition.bind_error hRun]
  · rw [Transition.bind_ok hRun, Transition.bind_ok hRun]
    dsimp only
    rw [Transition.state_map]
    unfold surrogates
    cases given.items? with
    | none => rfl
    | some items =>
        dsimp only
        rw [Transition.state_map]
        rfl

theorem follows_significance
    {c : Context α}
    (hFaithful : c.estimator.IsFaithful)
    (chosen : Value α)
    (count : Value α)
    (orderings : Value α) :
    c.summary.Follows
      ((Command.significance chosen count orderings).computed c)
      (significance chosen count orderings c).2.summary := by
  have hSame := summary_chosenOrderings chosen count orderings c
  have hEstimator :=
    leaves_chosenOrderings chosen count orderings c
  rw [significance_eq]
  unfold Command.computed
  rcases hChosen : chosenOrderings chosen count orderings c
    with ⟨⟨notes, e | given⟩, between⟩
  · rw [hChosen] at hSame
    rw [Transition.bind_error hChosen]
    simp only [hChosen]
    rw [hSame]
    exact .refl
  · rw [hChosen] at hSame hEstimator
    dsimp only at hSame hEstimator ⊢
    have hBetween : between.estimator.IsFaithful := by
      rw [hEstimator]
      exact hFaithful
    have hAll :=
      follows_averages hBetween chosen
        (.null :: given.items?.getD [])
    rw [Transition.bind_ok hChosen]
    simp only [hChosen]
    rw [state_surrogates, ← hSame]
    exact hAll

end Context

namespace Command

variable {α : Type} [Scalar α] [Literal α]

/- What a command computes is what it has recorded. -/
theorem follows_run
    (command : Command α)
    {c : Context α}
    (hFaithful : c.estimator.IsFaithful) :
    c.summary.Follows (command.computed c)
      (command.run c).2.summary := by
  have hLeaves :
      ∀ {β : Type} {t : Transition (Context α) α β}
          (f : β → Answer α),
        Transition.Leaves Context.summary t →
          c.summary.Follows []
            ((t >>= fun b => pure (f b)) c).2.summary := by
    intro β t f hT
    rw [Transition.state_map, hT c]
    exact .refl
  cases command with
  | initialise dims =>
      exact hLeaves _ (Context.summary_updateEstimator _)
  | set name v =>
      exact
        hLeaves (fun _ => .done)
          (Context.summary_updateEstimator _)
  | get name =>
      have hSame : (Command.run (.get name) c).2 = c :=
        leaves_get name c
      rw [hSame]
      exact .refl
  | setDebug v =>
      exact hLeaves _ (Context.summary_updateEstimator _)
  | setObservations x y z =>
      exact hLeaves _ (Context.summary_setObservations x y z)
  | start => exact hLeaves _ (Context.summary_updateEstimator _)
  | add x y z mask =>
      exact hLeaves _ (Context.summary_updateEstimator _)
  | finalise => exact hLeaves _ Context.summary_finalise
  | average chosen ordering =>
      unfold run
      dsimp only
      rw [Transition.state_map]
      exact Context.follows_average hFaithful chosen ordering
  | locals =>
      unfold run computed
      dsimp only
      rw [Transition.state_map]
      exact Context.follows_locals c
  | localsOf x y z =>
      have hSame : (Command.run (.localsOf x y z) c).2 = c :=
        leaves_localsOf x y z c
      rw [hSame]
      exact .refl
  | significance chosen count orderings =>
      unfold run
      dsimp only
      rw [Transition.state_map]
      exact
        Context.follows_significance hFaithful chosen count
          orderings
  | size => exact .refl
  | lastAverage => exact .refl
  | observations => exact .refl

end Command

end NeighbourInfo

------------------------------------------------------------
-- Sessions
------------------------------------------------------------

namespace NeighbourInfo

namespace Session

variable {α : Type} [Scalar α] [Literal α]

/- What a request computes, if it is a command that does. -/
def computedBy
    (s : Session α) :
    Request α → List (Computed α)
  | .command id command =>
      match s.estimator? id with
      | some e => command.computed ⟨e, s.shared⟩
      | none => []
  | _ => []

/- All that the requests of a run compute, in order. -/
def computed
    (s : Session α) :
    List (Request α) → List (Computed α)
  | [] => []
  | request :: requests =>
      s.computedBy request ++
        (step request s).2.computed requests

end Session

/- What is shown is the summary, whatever is asked for it. -/
theorem Shared.eq_of_showSummary
    {α : Type} [Scalar α]
    {verbosity : Value α}
    {shared : Shared α}
    {shown : Summary α}
    (hOk : (showSummary verbosity shared).1.result = .ok shown) :
    shown = shared.summary := by
  unfold showSummary at hOk
  cases hAbove : verbosity.isAbove 0 with
  | error e =>
      rw [hAbove] at hOk
      cases hOk
  | ok isShown =>
      rw [hAbove] at hOk
      cases hOk
      rfl

/- Estimators are created with methods that count points. -/
def Request.IsFaithful
    {α : Type} [Scalar α] :
    Request α → Prop
  | .create _ (some m) => m.kernel.IsFaithful
  | _ => True

namespace Session

variable {α : Type} [Scalar α] [Literal α]

/- The kernels of all estimators stay faithful. -/
theorem keeps_faithful
    {request : Request α}
    (hFaithful : request.IsFaithful) :
    Transition.Keeps
      (Holds (fun _ => True) Estimator.IsFaithful)
      (step request) := by
  intro s hHolds
  refine ⟨trivial, fun id e hFound => ?_⟩
  rw [estimator?_step] at hFound
  cases request with
  | create other method =>
      dsimp only at hFound
      split at hFound
      · cases hFound
        intro m hMethod
        change method = some m at hMethod
        subst hMethod
        exact hFaithful
      · exact hHolds.2 id e hFound
  | command other command =>
      dsimp only at hFound
      split at hFound
      · cases hBefore : s.estimator? other with
        | none =>
            rw [hBefore] at hFound
            cases hFound
        | some former =>
            rw [hBefore] at hFound
            cases hFound
            have hKeeps :
                Transition.Keeps
                  (fun c : Context α => c.estimator.IsFaithful)
                  command.run := by
              refine
                command.keeps_run
                  (fun _ _ hChange => hChange.isFaithful) ?_
              intro dims _ c e hOk hKernel
              rcases Estimator.eq_of_initialise hOk with
                ⟨dimensions, rfl⟩
              exact hKernel
            exact
              hKeeps ⟨former, s.shared⟩
                (hHolds.2 other former hBefore)
      · exact hHolds.2 id e hFound
  | chooseThreads choice processors =>
      exact hHolds.2 id e hFound
  | setDefaultK k => exact hHolds.2 id e hFound
  | showSummary verbosity => exact hHolds.2 id e hFound

/- What a request computes is what it has recorded. -/
theorem follows_step
    (request : Request α)
    {s : Session α}
    (hHolds :
      s.Holds (fun _ => True) Estimator.IsFaithful) :
    s.shared.summary.Follows (s.computedBy request)
      (step request s).2.shared.summary := by
  cases request with
  | create id method => exact .refl
  | command id command =>
      rw [step_command, computedBy]
      cases hFound : s.estimator? id with
      | none =>
          rw [onEstimator_of_none hFound]
          exact .refl
      | some e =>
          rw [onEstimator_of_some hFound]
          exact
            command.follows_run (hHolds.2 id e hFound)
              (c := ⟨e, s.shared⟩)
  | chooseThreads choice processors =>
      have hLeaves :
          Transition.Leaves (fun s => s.shared.summary)
            (step (.chooseThreads choice processors :
              Request α)) := by
        refine Transition.Leaves.bind (fun s => ?_)
          fun _ _ => rfl
        have hKeeps :
            Transition.Keeps
              (fun shared => shared.summary = s.shared.summary)
              (Shared.chooseThreads choice processors) :=
          Shared.keeps_chooseThreads
            (fun _ _ _ _ _ hSame => hSame) choice processors
        exact hKeeps s.shared rfl
      have hSame := hLeaves s
      dsimp only at hSame
      rw [hSame]
      exact .refl
  | setDefaultK k => exact .refl
  | showSummary verbosity =>
      have hLeaves :
          Transition.Leaves (fun s => s.shared.summary)
            (step (.showSummary verbosity : Request α)) := by
        refine Transition.Leaves.bind (fun s => ?_)
          fun _ => Transition.leaves_pure _
        exact
          congrArg Shared.summary
            (Shared.leaves_showSummary verbosity s.shared)
      have hSame := hLeaves s
      dsimp only at hSame
      rw [hSame]
      exact .refl

/- So do the requests of a run, one after the other. -/
theorem follows_requests
    {requests : List (Request α)}
    (hFaithful : ∀ request ∈ requests, request.IsFaithful)
    {s : Session α}
    (hHolds :
      s.Holds (fun _ => True) Estimator.IsFaithful) :
    s.shared.summary.Follows (s.computed requests)
      (s.run requests).2.shared.summary := by
  induction requests generalizing s with
  | nil => exact .refl
  | cons request requests ih =>
      rw [List.forall_mem_cons] at hFaithful
      have hFirst := follows_step request hHolds
      have hAfter := keeps_faithful hFaithful.1 s hHolds
      rw [run_cons]
      exact hFirst.trans (ih hFaithful.2 hAfter)

/-
  After any requests the summary tells of the last of all that
  was computed: its points, its threads, and as many blocks,
  which tile the points.  The mean counts are those of the
  last average among them, over the points of that average and
  of their counts; local values alone have no part in these.
  The summary is what is shown, and an average or local values
  that fail leave all of it as it was.
-/
theorem summary_of_run
    {requests : List (Request α)}
    (hFaithful : ∀ request ∈ requests, request.IsFaithful)
    (shared : Shared α) :
    let start := initial shared
    let s := (start.run requests).2
    let summary := s.shared.summary
    let log := start.computed requests
    let averages := log.filter Computed.isAverage
    (∀ w, log.getLast? = some w →
      summary.Describes w.estimator) ∧
    (∀ w, averages.getLast? = some w →
      summary.HasMeansOf w.estimator) ∧
    (log = [] → summary = shared.summary) ∧
    (averages = [] →
      summary.meanXZ = shared.summary.meanXZ ∧
        summary.meanYZ = shared.summary.meanYZ ∧
        summary.meanZ = shared.summary.meanZ) ∧
    (∀ verbosity answer,
      (step (.showSummary verbosity) s).1.result =
          .ok answer →
        answer = .summary summary) ∧
    ∀ id chosen ordering (command : Command α) e,
      command = .average chosen ordering ∨ command = .locals →
      (step (.command id command) s).1.result = .error e →
        (step (.command id command) s).2.shared.summary =
          summary := by
  intro start s summary log averages
  have hNone :
      start.Holds (fun _ => True) Estimator.IsFaithful :=
    holds_initial _ trivial
  have hFollows := follows_requests hFaithful hNone
  refine
    ⟨fun w => hFollows.describes, fun w => hFollows.hasMeansOf,
      ?_, hFollows.means_eq, ?_, ?_⟩
  · intro hLog
    change Summary.Follows _ log _ at hFollows
    rw [hLog] at hFollows
    exact hFollows.eq_of_nil
  · intro verbosity answer hOk
    rcases Transition.exists_of_bind_ok hOk with
      ⟨notes, shown, after, hShown, hAnswer⟩
    cases hAnswer
    have hResult :
        (Shared.showSummary verbosity s.shared).1.result =
          .ok shown := by
      have hSame := congrArg (·.1.result) hShown
      exact hSame
    rw [Shared.eq_of_showSummary hResult]
  · intro id chosen ordering command e hKind hError
    have hWhole : (Request.command id command).IsWhole := by
      intro id command hSame
      cases hSame
      rcases hKind with rfl | rfl
      · trivial
      · trivial
    rw [(unchanged_of_error _ hWhole s e hError).1]

/-
  Three points have their average taken, and two others their
  local values: the summary tells of these, and has the means
  of those.
-/
theorem summary_of_run_doubles :
    let column (entries : List Float) : Value Float :=
      .list (entries.map .real)
    let requests : List (Request Float) :=
      [.create "first" (some (.counting .first)),
        .command "first" (.initialise (.list [])),
        .command "first" (.set (.text "K") (.whole 1)),
        .command "first"
          (.setObservations (column [0, 1, 3])
            (column [0, 2, 1]) (column [0, 0, 1])),
        .command "first" (.average (.whole 1) .null),
        .create "second" (some (.counting .first)),
        .command "second" (.initialise (.list [])),
        .command "second" (.set (.text "K") (.whole 1)),
        .command "second"
          (.setObservations (column [5, 6]) (column [7, 9])
            (column [2, 4])),
        .command "second" .locals]
    let start := initial (.initial none default)
    let summary := (start.run requests).2.shared.summary
    ∃ w w' : Computed Float,
      w.estimator.size = 2 ∧ w'.estimator.size = 3 ∧
        summary.Describes w.estimator ∧
        summary.HasMeansOf w'.estimator := by
  intro column requests start summary
  have hFaithful :
      ∀ request ∈ requests, request.IsFaithful := by
    have hCounting :
        (Method.counting (α := Float) .first).kernel.IsFaithful :=
      Kernel.isFaithful_counting
    simp [requests, Request.IsFaithful, hCounting]
  have hLast :
      ((start.computed requests).getLast?.map fun w =>
        w.estimator.size) = some 2 := by
    decide +kernel
  have hLastAverage :
      (((start.computed requests).filter
            Computed.isAverage).getLast?.map fun w =>
          w.estimator.size) = some 3 := by
    decide +kernel
  rcases Option.map_eq_some_iff.mp hLast with
    ⟨w, hW, hTwo⟩
  rcases Option.map_eq_some_iff.mp hLastAverage with
    ⟨w', hW', hThree⟩
  rcases summary_of_run hFaithful (.initial none default) with
    ⟨hDescribes, hMeans, -⟩
  exact
    ⟨w, w', hTwo, hThree, hDescribes w hW, hMeans w' hW'⟩

/-
  After the average of two points by the second algorithm, the
  first one gives the local values of two others.  The summary
  has the former mean of one point within reach in z.  By the
  first algorithm there is none, as its own average shows.
-/
theorem summary_mixed :
    let column (entries : List Float) : Value Float :=
      .list (entries.map .real)
    let requests : List (Request Float) :=
      [.create "first" (some (.counting .second)),
        .command "first" (.initialise (.list [])),
        .command "first" (.set (.text "K") (.whole 1)),
        .command "first"
          (.set (.text "NORMALISE") (.text "false")),
        .command "first"
          (.setObservations (column [0, 1]) (column [0, 2])
            (column [0, 3])),
        .command "first" (.average (.whole 1) .null),
        .create "second" (some (.counting .first)),
        .command "second" (.initialise (.list [])),
        .command "second" (.set (.text "K") (.whole 1)),
        .command "second"
          (.set (.text "NORMALISE") (.text "false")),
        .command "second"
          (.setObservations (column [5, 6]) (column [7, 9])
            (column [2, 4]))]
    let s := ((initial (.initial none default)).run requests).2
    let after (command : Command Float) :=
      (step (.command "second" command) s).2.shared.summary
    let answer (command : Command Float) :=
      (step (.command "second" command) s).1.result
    let locals := after .locals
    let average := after (.average (.whole 1) .null)
    (answer .locals).isOk ∧
      locals.points = 2 ∧ Scalar.eq locals.meanZ 1 ∧
      average.points = 2 ∧ Scalar.eq average.meanZ 0 := by
  decide +kernel

end Session

end NeighbourInfo
