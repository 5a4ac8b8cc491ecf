import NeighbourInfo.Proofs.Independence
import NeighbourInfo.Proofs.Session.Operations

/-
  Averages that are recorded before the closing formula.

  Key definitions include:
    * `NeighbourInfo.Evaluation.summing`
    * `NeighbourInfo.Evaluation.closing`
    * `NeighbourInfo.Context.recordingSums`

  All that is recorded of an average is known as soon as the
  points have been counted, while the average itself is still
  to come of the closing formula.  That formula is refused a
  number of neighbours beyond a word, but no point has so many
  others.  So whoever records an average before the formula
  is applied records the same as who does it afterwards.
  This holds of every kernel that sums up the counts of its
  points, and so of all methods by which these are counted,
  as long as the observations are aligned rows.

  This is proven by:
    * `NeighbourInfo.Observations.exists_argument_of_countsAt`
    * `NeighbourInfo.Evaluation.average_eq`
    * `NeighbourInfo.Evaluation.exists_closing_of_summing`
    * `NeighbourInfo.Method.IsKraskov.isFaithful`
    * `NeighbourInfo.Context.recordingSums_eq`
-/

------------------------------------------------------------
-- Arguments Of The Formula
------------------------------------------------------------

namespace NeighbourInfo

variable {α : Type} [Scalar α]

/- Points are not counted with a number below all words. -/
private theorem Counts.gt_of_ofSeparations
    {algorithm : Algorithm}
    {k : Int}
    {others : List (Separation α)}
    {counts : Counts}
    (hOk : ofSeparations algorithm k others = .ok counts) :
    -0x8000000000000000 < k := by
  unfold ofSeparations at hOk
  split at hOk
  · cases hOk
  · omega

/- The formula takes a number that there are neighbours for. -/
private theorem Search.exists_argument_of_counts
    {search : Search α}
    {algorithm : Algorithm}
    {point : Int}
    {all : List (Separation α)}
    (hSize : all.length < 2 ^ 63)
    {counts : Counts}
    (hOk : search.counts algorithm point all = .ok counts) :
    ∃ a, search.k.toArgument = .ok a := by
  rcases exists_of_bind_eq_ok hOk with ⟨k, hK, hCounts⟩
  have hLow := Counts.gt_of_ofSeparations hCounts
  have hFound :
      (Window.keep search.window point all).length < 2 ^ 63 := by
    rw [Window.length_keep]
    refine Nat.lt_of_le_of_lt List.countP_le_length ?_
    rwa [List.length_range]
  cases hGiven : search.k with
  | truth b => exact ⟨_, rfl⟩
  | real a => exact ⟨a, rfl⟩
  | whole m =>
      rw [neighbours_of_whole hGiven] at hK
      split at hK
      · cases hK
      · next hEnough =>
          cases hK
          have hWord : Value.isWord k = true := by
            simp only [Value.isWord, Bool.and_eq_true,
              decide_eq_true_eq]
            omega
          refine ⟨Scalar.ofInt k, ?_⟩
          rw [Value.toArgument, if_pos hWord]
  | null | text _ | list _ | record _ =>
      rcases exists_of_bind_eq_ok hK with ⟨-, -, hWhole⟩
      rw [hGiven] at hWhole
      cases hWhole

/- The number of neighbours that a point has is a word. -/
theorem Observations.exists_argument_of_countsAt
    {data : Observations α}
    (hAligned : data.IsAligned)
    (hSize : data.size < 2 ^ 63)
    {i : Nat}
    (hPoint : i < data.size)
    {algorithm : Algorithm}
    {search : Search α}
    {counts : Counts}
    (hOk : data.countsAt algorithm search i = .ok counts) :
    ∃ a, search.k.toArgument = .ok a := by
  rcases separations_distancesAt hAligned hPoint search.norm
    with ⟨d, hDistances, hEven, hAll⟩
  rw [countsAt, hDistances] at hOk
  change d.counts search algorithm i = _ at hOk
  rw [Distances.counts_of_isEven hEven, hAll] at hOk
  refine Search.exists_argument_of_counts ?_ hOk
  rwa [List.length_map, List.length_range]

end NeighbourInfo

------------------------------------------------------------
-- Two Parts Of An Average
------------------------------------------------------------

namespace NeighbourInfo

namespace Evaluation

variable {α : Type} [Scalar α]

/- The part of which everything is recorded. -/
def summing
    (kernel : Kernel α)
    (config : Config α)
    (data : Observations α) :
    Report α (Computation α × Sums α) := do
  let points := data.size
  let (blocks, sums) ←
    overBlocks config points (kernel.sums config data)
      fun parts => Sums.total (parts.map Prod.snd)
  let means := sums.dividedBy (Scalar.ofNat points)
  return (⟨points, config.threads, blocks, some means⟩, means)

/- The part that makes the average of the means. -/
def closing
    (config : Config α)
    (means : Sums α) :
    Report α α := do
  let k ← Report.ofExcept config.search.k.toArgument
  let value := means.average config.algorithm k
  Report.noteWhen config.debug
    [.meanCounts means,
      .closing config.algorithm k means value]
  return value

theorem average_eq
    (kernel : Kernel α)
    (config : Config α)
    (data : Observations α) :
    average kernel config data =
      (do
        let (computation, means) ← summing kernel config data
        let value ← closing config means
        return (computation, value)) := by
  unfold average summing closing
  simp only [bind_assoc, pure_bind]

section Parts

variable {kernel : Kernel α} {config : Config α}
variable {data : Observations α} {notes : List (Note α)}

private theorem average_of_error
    {e : Error α}
    (hSums :
      summing kernel config data = ⟨notes, .error e⟩) :
    average kernel config data = ⟨notes, .error e⟩ := by
  rw [average_eq, hSums]
  rfl

private theorem average_of_ok
    {computation : Computation α}
    {means : Sums α}
    (hSums :
      summing kernel config data =
        ⟨notes, .ok (computation, means)⟩)
    {more : List (Note α)}
    {value : α}
    (hClosing :
      closing config means = ⟨more, .ok value⟩) :
    average kernel config data =
      ⟨notes ++ more, .ok (computation, value)⟩ := by
  rw [average_eq, hSums, Report.bind_ok]
  dsimp only
  rw [hClosing, Report.bind_ok]
  change
    (⟨notes ++ (more ++ []), .ok (computation, value)⟩ :
      Report α (Computation α × α)) = _
  rw [List.append_nil]

end Parts

/- The formula is not refused what was summed up. -/
theorem exists_closing_of_summing
    {kernel : Kernel α}
    (hFaithful : kernel.IsFaithful)
    {config : Config α}
    {data : Observations α}
    (hAligned : data.IsAligned)
    (hSome : 1 ≤ data.size)
    (hSize : data.size < 2 ^ 63)
    {computation : Computation α}
    {means : Sums α}
    (hOk :
      (summing kernel config data).result =
        .ok (computation, means)) :
    ∃ value, (closing config means).result = .ok value := by
  rcases Report.exists_of_bind_ok hOk with
    ⟨⟨blocks, sums⟩, hOver, -⟩
  -- The first point was counted, whichever block it is in.
  have hFirst := (sums_of_overBlocks hFaithful hOver).2 0 hSome
  rcases
      Observations.exists_argument_of_countsAt hAligned hSize
        hSome hFirst with
    ⟨k, hArgument⟩
  unfold closing
  rw [hArgument]
  exact ⟨_, rfl⟩

end Evaluation

end NeighbourInfo

------------------------------------------------------------
-- Methods
------------------------------------------------------------

namespace NeighbourInfo

/- All methods by which neighbours are counted do count them. -/
theorem Method.IsKraskov.isFaithful
    {α : Type} [Scalar α]
    {m : Method α}
    (hKraskov : m.IsKraskov) :
    m.kernel.IsFaithful := by
  cases hKraskov with
  | counting algorithm => exact Kernel.isFaithful_counting
  | failingFrom start algorithm =>
      exact Kernel.isFaithful_counting.failingFrom start
  | withoutKernel algorithm => exact Kernel.isFaithful_missing
  | undecided => exact Kernel.isFaithful_missing

end NeighbourInfo

------------------------------------------------------------
-- Recording The Sums
------------------------------------------------------------

namespace NeighbourInfo

namespace Context

variable {α : Type} [Scalar α]

/-
  Compute the average, and record it as soon as its means are
  known.
-/
def recordingSums :
    Transition (Context α) α α := do
  let method ← method .notImplemented
  let e ← estimator?
  let data ← Transition.ofExcept e.finalised
  let config ←
    Transition.ofExcept (method.config e.settings)
  let (computation, means) ←
    Transition.report
      (Evaluation.summing method.kernel config data)
  record computation
  Transition.report (Evaluation.closing config means)

/- With a method and observations there is something to sum. -/
private theorem recordingSums_of_some
    {c : Context α}
    {m : Method α}
    (hMethod : c.estimator.method = some m)
    (hFaithful : m.kernel.IsFaithful)
    {data : Observations α}
    (hData : c.estimator.observations = some data)
    (hAligned : data.IsAligned)
    (hSome : 1 ≤ data.size)
    (hSize : data.size < 2 ^ 63) :
    recordingSums c =
      compute .notImplemented Method.average c := by
  have hFinalised := Estimator.finalised_of_some hData
  have hEvaluation :
      c.estimator.evaluation .notImplemented Method.average =
        m.average c.estimator.settings data :=
    Estimator.averaging_of_some hMethod hData
  rw [compute_eq, hEvaluation]
  unfold recordingSums Method.average
  rw [Transition.bind_of_read (method_of_some hMethod _),
    estimator?_bind, hFinalised, Transition.ofExcept_ok_bind]
  cases m.config c.estimator.settings with
  | error e => rfl
  | ok config =>
      have hAverage :
          (Report.ofExcept (.ok config) >>= fun config =>
              Evaluation.average m.kernel config data) =
            Evaluation.average m.kernel config data := rfl
      rw [Transition.ofExcept_ok_bind, hAverage]
      rcases hSums :
          Evaluation.summing m.kernel config data with
        ⟨notes, e | ⟨computation, means⟩⟩
      · rw [Evaluation.average_of_error hSums]
        rfl
      · rcases
            Evaluation.exists_closing_of_summing hFaithful
              hAligned hSome hSize (by rw [hSums]) with
          ⟨value, hValue⟩
        rcases hClosing : Evaluation.closing config means with
          ⟨more, outcome⟩
        rw [hClosing] at hValue
        cases hValue
        rw [Evaluation.average_of_ok hSums hClosing]
        dsimp only
        have hRead :
            Transition.report
                (⟨notes, .ok (computation, means)⟩ :
                  Report α (Computation α × Sums α)) c =
              (⟨notes, .ok (computation, means)⟩, c) := rfl
        rw [Transition.bind_ok hRead]
        dsimp only
        rw [hClosing]
        rfl

/-
  It makes no difference whether an average is recorded before
  the closing formula is applied or afterwards.
-/
theorem recordingSums_eq
    {c : Context α}
    (hFaithful :
      ∀ m, c.estimator.method = some m → m.kernel.IsFaithful)
    (hData :
      ∀ data, c.estimator.observations = some data →
        data.IsAligned ∧ 1 ≤ data.size ∧
          data.size < 2 ^ 63) :
    recordingSums c =
      compute .notImplemented Method.average c := by
  cases hMethod : c.estimator.method with
  | none =>
      unfold recordingSums compute
      rw [Transition.bind_error (method_of_none hMethod _),
        Transition.bind_error (method_of_none hMethod _)]
  | some m =>
      cases hObserved : c.estimator.observations with
      | none =>
          have hFinalised :=
            Estimator.finalised_of_none hObserved
          unfold recordingSums compute
          rw [Transition.bind_of_read
              (method_of_some hMethod _),
            Transition.bind_of_read (method_of_some hMethod _),
            estimator?_bind, estimator?_bind, hFinalised,
            Transition.ofExcept_error_bind,
            Transition.ofExcept_error_bind]
      | some data =>
          rcases hData data hObserved with
            ⟨hAligned, hSome, hSize⟩
          exact
            recordingSums_of_some hMethod (hFaithful m hMethod)
              hObserved hAligned hSome hSize

end Context

end NeighbourInfo
