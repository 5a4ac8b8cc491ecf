import NeighbourInfo.Proofs.Pool.Runs
import NeighbourInfo.Proofs.Scalar.Rational

/-
  What comes of a computation by several threads.

  Key definitions include:
    * `NeighbourInfo.Pool.IsSummed`
    * `NeighbourInfo.Kernel.IsFitting`
    * `NeighbourInfo.Pool.IsFilled`

  In whatever order workers start and finish the blocks, and
  whatever properties are set meanwhile, the outcome is that
  of one block after another under the settings that were
  captured at entry.

  This is proven by:
    * `NeighbourInfo.Pool.Job.describes_average`
    * `NeighbourInfo.Pool.Tracks.isSummed`
    * `NeighbourInfo.Pool.Job.describes_locals`
    * `NeighbourInfo.Pool.Tracks.isFilled`
    * `NeighbourInfo.Pool.outcome_of_isRun`
-/

------------------------------------------------------------
-- Averages
------------------------------------------------------------

namespace NeighbourInfo

variable {α : Type} [Scalar α]

namespace Sums

/- Each of the six sums is that of all blocks. -/
theorem total_eq
    (parts : List (Sums α)) :
    total parts =
      ⟨Scalar.sum (parts.map digammas),
        Scalar.sum (parts.map xz),
        Scalar.sum (parts.map yz),
        Scalar.sum (parts.map z),
        Scalar.sum (parts.map inverseXZ),
        Scalar.sum (parts.map inverseYZ)⟩ := by
  have hFold :
      ∀ sums : Sums α,
        parts.foldl add sums =
          ⟨(parts.map digammas).foldl (· + ·) sums.digammas,
            (parts.map xz).foldl (· + ·) sums.xz,
            (parts.map yz).foldl (· + ·) sums.yz,
            (parts.map z).foldl (· + ·) sums.z,
            (parts.map inverseXZ).foldl (· + ·) sums.inverseXZ,
            (parts.map inverseYZ).foldl (· + ·)
              sums.inverseYZ⟩ := by
    induction parts with
    | nil =>
        intro sums
        rfl
    | cons part parts ih =>
        intro sums
        exact ih (sums.add part)
  exact hFold zero

end Sums

namespace Pool

variable {algorithm : Algorithm} {kernel : Kernel α}
variable {c : Context α} {data : Observations α}
variable {blocks : List Block}

/- What follows from the sums that all blocks contribute. -/
theorem Job.conclude_average
    (kernel : Kernel α)
    (config : Config α)
    (points : Nat)
    {blocks : List Block}
    {parts : List (Sums α)}
    (hLength : blocks.length = parts.length) :
    let means :=
      (Sums.total parts).dividedBy (Scalar.ofNat points)
    let conclusion :=
      (Job.average kernel).conclude config points
        (blocks.zip parts)
    conclusion.1 =
        ⟨points, config.threads, blocks, some means⟩ ∧
      conclusion.2.result =
        config.search.k.toArgument.map fun k =>
          let value := means.average config.algorithm k
          (value, value) := by
  intro means conclusion
  have hFirsts : (blocks.zip parts).map Prod.fst = blocks :=
    List.map_fst_zip (Nat.le_of_eq hLength)
  have hSeconds : (blocks.zip parts).map Prod.snd = parts :=
    List.map_snd_zip (Nat.le_of_eq hLength.symm)
  simp only [conclusion, Job.average, hFirsts, hSeconds,
    Report.result_bind, Report.result_ofExcept]
  refine ⟨rfl, ?_⟩
  cases config.search.k.toArgument with
  | error e => rfl
  | ok k => rfl

/- The average of the estimator, told by its blocks. -/
private theorem result_averaging
    (hDividing :
      c.estimator.IsDividing algorithm kernel data blocks) :
    let config : Config α :=
      .captured algorithm c.estimator.settings
    c.estimator.averaging.result =
      (blocks.mapM (kernel.sums config data)).bind
        fun parts =>
          let conclusion :=
            (Job.average kernel).conclude config data.size
              (blocks.zip parts)
          conclusion.2.result.map fun both =>
            (conclusion.1, both.2) := by
  intro config
  let merge (parts : List (Block × Sums α)) : Sums α :=
    Sums.total (parts.map Prod.snd)
  rcases hDividing.comparable with ⟨isFew, hFew⟩
  have hBlocks :
      (Evaluation.overBlocks config data.size
          (kernel.sums config data) merge).result =
        (blocks.mapM (kernel.sums config data)).map
          fun parts => (blocks, merge (blocks.zip parts)) :=
    Evaluation.result_overBlocks_several merge hFew
      hDividing.several hDividing.split
  have hAveraging :
      c.estimator.averaging =
        Evaluation.average kernel config data := by
    unfold Estimator.averaging Estimator.evaluation
    rw [hDividing.method, hDividing.observations]
    rfl
  rw [hAveraging, Evaluation.average, Report.result_bind]
  change
    ((Evaluation.overBlocks config data.size
        (kernel.sums config data) merge).result).bind _ = _
  rw [hBlocks]
  cases hParts : blocks.mapM (kernel.sums config data) with
  | error e => rfl
  | ok parts =>
      have hFirsts : (blocks.zip parts).map Prod.fst = blocks :=
        List.map_fst_zip
          (Nat.le_of_eq (length_of_mapM_eq_ok hParts).symm)
      simp only [Except.map, Except.bind, Job.average, hFirsts,
        Report.result_bind, Report.result_ofExcept]
      cases config.search.k.toArgument with
      | error e => rfl
      | ok k => rfl

/- The average is what comes of one block after another. -/
theorem Job.describes_average
    (hDividing :
      c.estimator.IsDividing algorithm kernel data blocks) :
    (Job.average kernel).Describes Context.plainAverage c
      (.captured algorithm c.estimator.settings) data
      blocks := by
  let config : Config α :=
    .captured algorithm c.estimator.settings
  have hAveraging := result_averaging hDividing
  refine
    { result := ?_
      context := ?_ }
  · rw [Context.result_plainAverage_eq, hAveraging]
    change
      ((blocks.mapM (kernel.sums config data)).bind _).map
          Prod.snd =
        (blocks.mapM (kernel.sums config data)).bind _
    cases blocks.mapM (kernel.sums config data) with
    | error e => rfl
    | ok parts =>
        change (Except.map _ _).map Prod.snd = Except.map _ _
        cases
            ((Job.average kernel).conclude config data.size
              (blocks.zip parts)).2.result with
        | error e => rfl
        | ok both => rfl
  · intro parts hParts conclusion value answer hConclude
    change blocks.mapM (kernel.sums config data) = _ at hParts
    have hOk :
        c.estimator.averaging.result =
          .ok (conclusion.1, answer) := by
      rw [hAveraging, hParts]
      change conclusion.2.result.map _ = _
      rw [hConclude]
      rfl
    have hBoth : value = answer := by
      rcases
          Job.conclude_average kernel config data.size
            (length_of_mapM_eq_ok hParts).symm with
        ⟨-, hClosing⟩
      change conclusion.2.result = _ at hClosing
      rw [hConclude] at hClosing
      cases hK : config.search.k.toArgument with
      | error e =>
          rw [hK] at hClosing
          cases hClosing
      | ok k =>
          rw [hK] at hClosing
          cases hClosing
          rfl
    rw [Context.context_plainAverage_of_ok hOk, hBoth]
    rfl

variable [Literal α]

/-
  If no block fails, each of the six sums is over what all
  blocks contribute, and the answer follows from their means.
-/
def IsSummed
    (kernel : Kernel α)
    (c : Context α)
    (config : Config α)
    (data : Observations α)
    (blocks : List Block)
    (events : List (Event α))
    (p : Pool α (Sums α) α) :
    Prop :=
  ∀ answer, p.answer = some answer →
    ∀ parts : List (Sums α),
      blocks.map (kernel.sums config data) = parts.map .ok →
        let total : Sums α :=
          ⟨Scalar.sum (parts.map Sums.digammas),
            Scalar.sum (parts.map Sums.xz),
            Scalar.sum (parts.map Sums.yz),
            Scalar.sum (parts.map Sums.z),
            Scalar.sum (parts.map Sums.inverseXZ),
            Scalar.sum (parts.map Sums.inverseYZ)⟩
        let means := total.dividedBy (Scalar.ofNat data.size)
        let computation : Computation α :=
          ⟨data.size, config.threads, blocks, some means⟩
        answer.result =
            config.search.k.toArgument.map
              (means.average config.algorithm) ∧
          p.context =
            (settled events c).concluded computation
              answer.result.toOption

/- All that holds of a pool makes its answer an average. -/
theorem Tracks.isSummed
    {config : Config α}
    {events : List (Event α)}
    {p : Pool α (Sums α) α}
    (hTracks :
      Tracks (.average kernel) c config data blocks events p) :
    IsSummed kernel c config data blocks events p := by
  intro answer hAnswer parts hParts total means computation
  have hLengths := congrArg List.length hParts
  rw [List.length_map, List.length_map] at hLengths
  rcases
      Job.conclude_average kernel config data.size
        hLengths with
    ⟨hComputation, hClosing⟩
  rcases hTracks.concluded hAnswer hParts with
    ⟨hResult, hContext⟩
  rw [hClosing] at hResult hContext
  rw [hComputation] at hContext
  rw [Sums.total_eq] at hResult hContext
  rw [hResult, hContext]
  cases config.search.k.toArgument with
  | error e => exact ⟨rfl, rfl⟩
  | ok k => exact ⟨rfl, rfl⟩

end Pool

end NeighbourInfo

------------------------------------------------------------
-- Local Values
------------------------------------------------------------

namespace NeighbourInfo

variable {α : Type}

/- A block has as many local values as it has points. -/
def Kernel.IsFitting
    (kernel : Kernel α) :
    Prop :=
  ∀ (config : Config α) (data : Observations α) (b : Block)
    (values : List α),
    kernel.locals config data b = .ok values →
      values.length = b.length.toNat

/- The kernel that counts neighbours has a value for each. -/
theorem Kernel.isFitting_counting
    [Scalar α] :
    IsFitting (counting : Kernel α) := by
  intro config data b values hOk
  rcases exists_of_bind_eq_ok hOk with ⟨counts, hCounts, hOk⟩
  rcases exists_of_bind_eq_ok hOk with ⟨k, -, hOk⟩
  cases hOk
  unfold blockCounts at hCounts
  split at hCounts
  · cases hCounts
  · rw [List.length_map, length_of_mapM_eq_ok hCounts,
      Block.length_points]

/- A kernel still does when it fails on some blocks. -/
theorem Kernel.IsFitting.failingFrom
    {kernel : Kernel α}
    (hFits : kernel.IsFitting)
    (start : Int) :
    (kernel.failingFrom start).IsFitting := by
  intro config data b values hOk
  unfold Kernel.failingFrom at hOk
  dsimp only at hOk
  split at hOk
  · cases hOk
  · exact hFits config data b values hOk

namespace Evaluation

variable {β : Type} {n : Nat} {blocks : List Block}
variable {contribute : Block → Except (Error α) (List β)}
variable {parts : List (List β)}

/- Where no block failed, each gave values for its points. -/
theorem fitting_of_mem_zip
    (hParts : blocks.map contribute = parts.map .ok)
    (hFits :
      ∀ b values,
        contribute b = .ok values →
          values.length = b.length.toNat) :
    (blocks.zip parts).map Prod.fst = blocks ∧
      ∀ part ∈ blocks.zip parts,
        part.2.length = part.1.length.toNat := by
  have hLengths := congrArg List.length hParts
  rw [List.length_map, List.length_map] at hLengths
  refine ⟨List.map_fst_zip (Nat.le_of_eq hLengths), ?_⟩
  rintro ⟨b, values⟩ hPart
  exact hFits b values (eq_ok_of_mem_zip hParts hPart)

/- What was in the array before leaves no trace. -/
theorem assemble_zip
    (hTiles : Block.Tiles 0 blocks n)
    (hParts : blocks.map contribute = parts.map .ok)
    (hFits :
      ∀ b values,
        contribute b = .ok values →
          values.length = b.length.toNat)
    {empty : List β}
    (hEmpty : empty.length = n) :
    assemble empty (blocks.zip parts) =
      (blocks.zip parts).flatMap Prod.snd := by
  rcases fitting_of_mem_zip hParts hFits with
    ⟨hBlocks, hLengths⟩
  rw [← hBlocks] at hTiles
  have hRoom : n ≤ empty.length := Nat.le_of_eq hEmpty.symm
  rw [assemble_of_tiles hTiles hLengths hRoom, ← hEmpty,
    List.take_zero, List.drop_length, List.append_nil,
    List.nil_append]

end Evaluation

namespace Pool

variable [Scalar α]
variable {algorithm : Algorithm} {kernel : Kernel α}
variable {c : Context α} {data : Observations α}
variable {blocks : List Block}

/- The local values of the estimator, told by its blocks. -/
private theorem result_localising
    (hDividing :
      c.estimator.IsDividing algorithm kernel data blocks) :
    let config : Config α :=
      .captured algorithm c.estimator.settings
    let missing := List.replicate data.size (Scalar.nan : α)
    c.estimator.localising.result =
      (blocks.mapM (kernel.locals config data)).map
        fun parts =>
          (⟨data.size, config.threads, blocks, none⟩,
            Evaluation.assemble missing
              (blocks.zip parts)) := by
  intro config missing
  rcases hDividing.comparable with ⟨isFew, hFew⟩
  have hBlocks :
      (Evaluation.overBlocks config data.size
          (kernel.locals config data)
          (Evaluation.assemble missing)).result =
        (blocks.mapM (kernel.locals config data)).map
          fun parts =>
            (blocks,
              Evaluation.assemble missing
                (blocks.zip parts)) :=
    Evaluation.result_overBlocks_several
      (Evaluation.assemble missing) hFew hDividing.several
      hDividing.split
  have hLocalising :
      c.estimator.localising =
        Evaluation.locals kernel config data := by
    unfold Estimator.localising Estimator.evaluation
    rw [hDividing.method, hDividing.observations]
    rfl
  rw [hLocalising, Evaluation.locals, Report.result_bind]
  change
    ((Evaluation.overBlocks config data.size
        (kernel.locals config data)
        (Evaluation.assemble missing)).result).bind _ = _
  rw [hBlocks]
  cases blocks.mapM (kernel.locals config data) with
  | error e => rfl
  | ok parts => rfl

variable {empty : List α}

/- Local values are what comes of one block after another. -/
theorem Job.describes_locals
    (hDividing :
      c.estimator.IsDividing algorithm kernel data blocks)
    (hTiles : Block.Tiles 0 blocks data.size)
    (hFits : kernel.IsFitting)
    (hEmpty : empty.length = data.size) :
    (Job.locals kernel empty).Describes Context.locals c
      (.captured algorithm c.estimator.settings) data
      blocks := by
  let config : Config α :=
    .captured algorithm c.estimator.settings
  let missing := List.replicate data.size (Scalar.nan : α)
  have hLocalising := result_localising hDividing
  have hSame :
      ∀ parts : List (List α),
        blocks.mapM (kernel.locals config data) = .ok parts →
          Evaluation.assemble missing (blocks.zip parts) =
            Evaluation.assemble empty (blocks.zip parts) := by
    intro parts hParts
    have hAll := mapM_eq_ok_iff.mp hParts
    have hMissing : missing.length = data.size :=
      List.length_replicate
    rw [Evaluation.assemble_zip hTiles hAll (hFits _ _) hEmpty]
    exact
      Evaluation.assemble_zip hTiles hAll (hFits _ _) hMissing
  refine
    { result := ?_
      context := ?_ }
  · rw [Context.result_locals_eq, hLocalising]
    change
      ((blocks.mapM (kernel.locals config data)).map _).map
          Prod.snd =
        (blocks.mapM (kernel.locals config data)).bind _
    cases hParts : blocks.mapM (kernel.locals config data) with
    | error e => rfl
    | ok parts => exact congrArg Except.ok (hSame parts hParts)
  · intro parts hParts conclusion value answer hConclude
    change blocks.mapM (kernel.locals config data) = _ at hParts
    have hFirsts : (blocks.zip parts).map Prod.fst = blocks :=
      List.map_fst_zip
        (Nat.le_of_eq (length_of_mapM_eq_ok hParts).symm)
    have hComputation :
        conclusion.1 =
          ⟨data.size, config.threads, blocks, none⟩ := by
      change
        (⟨data.size, config.threads,
            (blocks.zip parts).map Prod.fst, none⟩ :
          Computation α) = _
      rw [hFirsts]
    have hOk :
        c.estimator.localising.result =
          .ok (conclusion.1, answer) := by
      rw [hLocalising, hParts, hComputation]
      cases hConclude
      rw [← hSame parts hParts]
      rfl
    rw [Context.context_locals_of_ok hOk]
    cases hConclude
    rfl

variable [Literal α]

/-
  If no block fails, the array is as long as there are points,
  and the values of each block are at its places.
-/
def IsFilled
    (kernel : Kernel α)
    (c : Context α)
    (config : Config α)
    (data : Observations α)
    (blocks : List Block)
    (events : List (Event α))
    (p : Pool α (List α) (List α)) :
    Prop :=
  ∀ answer, p.answer = some answer →
    ∀ parts : List (List α),
      blocks.map (kernel.locals config data) = parts.map .ok →
        let computation : Computation α :=
          ⟨data.size, config.threads, blocks, none⟩
        ∃ values : List α,
          answer.result = .ok values ∧
            values.length = data.size ∧
            (∀ b part, (b, part) ∈ blocks.zip parts →
              (values.drop b.start.toNat).take
                  b.length.toNat =
                part) ∧
            p.context =
              (settled events c).concluded computation
                (some (Scalar.mean values))

/- All that holds of a pool makes its answer local values. -/
theorem Tracks.isFilled
    {config : Config α}
    {events : List (Event α)}
    {p : Pool α (List α) (List α)}
    (hTracks :
      Tracks (.locals kernel empty) c config data blocks events
        p)
    (hTiles : Block.Tiles 0 blocks data.size)
    (hFits : kernel.IsFitting)
    (hEmpty : empty.length = data.size) :
    IsFilled kernel c config data blocks events p := by
  intro answer hAnswer parts hParts computation
  rcases hTracks.concluded hAnswer hParts with
    ⟨hResult, hContext⟩
  rcases
      Evaluation.fitting_of_mem_zip hParts (hFits _ _) with
    ⟨hBlocks, hLengths⟩
  have hTilesZip := hTiles
  rw [← hBlocks] at hTilesZip
  let values := (blocks.zip parts).flatMap Prod.snd
  have hValues :
      Evaluation.assemble empty (blocks.zip parts) = values :=
    Evaluation.assemble_zip hTiles hParts (hFits _ _) hEmpty
  refine ⟨values, ?_, ?_, ?_, ?_⟩
  · rw [← hValues]
    exact hResult
  · exact Evaluation.length_of_tiles hTilesZip hLengths
  · intro b part hPart
    exact
      Evaluation.take_drop_of_tiles hTilesZip hLengths hPart
  · rw [hContext, ← hValues]
    change
      (settled events c).concluded
          ⟨data.size, config.threads,
            (blocks.zip parts).map Prod.fst, none⟩
          _ = _
    rw [hBlocks]
    rfl

end Pool

end NeighbourInfo

------------------------------------------------------------
-- Outcomes
------------------------------------------------------------

namespace NeighbourInfo

namespace Pool

variable {α : Type} [Scalar α] [Literal α]
variable {algorithm : Algorithm} {kernel : Kernel α}
variable {c : Context α} {data : Observations α}
variable {isFew : Bool}

/-
  Whatever a kernel computes, the outcome does not depend on
  the order in which workers start and finish the blocks, or
  on properties that are set meanwhile.  Each block is run
  once with the settings captured at entry.  The error of the
  first block that fails is given, and nothing is recorded or
  kept.  If none fails, the points of the array are written
  once each, with what their own block computed for them, or
  each of the six sums is over all blocks.  Either way it is
  the outcome of one block after another.
-/
theorem outcome_of_isRun
    (hFits : kernel.IsFitting)
    (hMethod :
      c.estimator.method = some ⟨some algorithm, kernel⟩)
    (hData : c.estimator.observations = some data)
    (hFew :
      Evaluation.areFew data.size c.estimator.settings.k =
        .ok isFew)
    (hSeveral : 2 ≤ c.estimator.settings.threads.toNat) :
    let method : Method α := ⟨some algorithm, kernel⟩
    let config : Config α :=
      .captured algorithm c.estimator.settings
    ∃ blocks : List Block,
      Block.split (α := α) data.size config.threads.toNat =
          .ok blocks ∧
        blocks.length = config.threads.toNat ∧
        (∀ i < data.size,
          blocks.countP (fun b => i ∈ b.places) = 1) ∧
        ((∃ p, IsRun (.average kernel) method c [] p) ∧
          ∀ events p,
            IsRun (.average kernel) method c events p →
              IsOrderly (.average kernel) method c config data
                  blocks events p ∧
                IsOutcome Context.plainAverage c events p ∧
                IsSummed kernel c config data blocks events
                  p) ∧
        ∀ empty : List α, empty.length = data.size →
          (∃ p, IsRun (.locals kernel empty) method c [] p) ∧
            ∀ events p,
              IsRun (.locals kernel empty) method c events p →
                IsOrderly (.locals kernel empty) method c
                    config data blocks events p ∧
                  IsOutcome Context.locals c events p ∧
                  IsFilled kernel c config data blocks events
                    p := by
  intro method config
  have hThreads : 1 ≤ config.threads.toNat :=
    Nat.le_of_succ_le hSeveral
  rcases Block.tiles_split (α := α) data.size hThreads with
    ⟨blocks, hSplit, hLength, hTiles⟩
  have hDividing :
      c.estimator.IsDividing algorithm kernel data blocks :=
    { method := hMethod
      observations := hData
      comparable := ⟨isFew, hFew⟩
      several := Nat.ne_of_gt hSeveral
      split := hSplit }
  refine ⟨blocks, hSplit, hLength, ?_, ⟨?_, ?_⟩, ?_⟩
  · intro i hPoint
    exact hTiles.countP_places (Nat.zero_le i) hPoint
  · exact ⟨_, _, result_opening hDividing, rfl⟩
  · intro events p hRun
    have hTracks := hRun.tracks (result_opening hDividing)
    exact
      ⟨hTracks.isOrderly hRun,
        hTracks.isOutcome (Job.describes_average hDividing),
        hTracks.isSummed⟩
  · intro empty hEmpty
    refine ⟨⟨_, _, result_opening hDividing, rfl⟩, ?_⟩
    intro events p hRun
    have hTracks := hRun.tracks (result_opening hDividing)
    have hSame :=
      Job.describes_locals hDividing hTiles hFits hEmpty
    exact
      ⟨hTracks.isOrderly hRun, hTracks.isOutcome hSame,
        hTracks.isFilled hTiles hFits hEmpty⟩

/-
  Of three blocks the last one is finished first and fails;
  later the second one fails, too, and its error is given.
-/
theorem outcome_of_isRun_rationals :
    let data : Observations ℚ :=
      ⟨⟨1, [[0], [1], [3], [4], [6], [7]]⟩,
        ⟨1, [[0], [2], [1], [5], [3], [3]]⟩,
        ⟨1, [[0], [0], [1], [1], [2], [2]]⟩⟩
    let settings : Settings ℚ := .initial (.whole 1) (.count 3)
    let method : Method ℚ := .failingFrom 2 .second
    let e : Estimator ℚ :=
      { Estimator.create (some method) settings with
        observations := some data }
    let c : Context ℚ := ⟨e, .initial none default⟩
    let events : List (Event ℚ) :=
      [.start 2, .start 0, .set (.text "k") (.whole 10),
        .finish 2, .start 1, .finish 1, .finish 0, .conclude]
    method.kernel.IsFitting ∧
      ∃ p answer,
        IsRun (.average method.kernel) method c events p ∧
          p.answer = some answer ∧
          answer.result = .error (.blockFailed 2) ∧
          p.context.shared = c.shared ∧
          p.context.estimator.settings.k = .whole 10 := by
  intro data settings method e c events
  have hFits : method.kernel.IsFitting :=
    Kernel.isFitting_counting.failingFrom 2
  refine ⟨hFits, ?_⟩
  rcases
      outcome_of_isRun (c := c) hFits rfl rfl rfl
        (by decide) with
    ⟨blocks, hSplit, -, -, ⟨-, hAverage⟩, -⟩
  have hBlocks : blocks = [⟨0, 2⟩, ⟨2, 2⟩, ⟨4, 2⟩] := by
    rw [← Except.ok.inj hSplit]
    decide
  rw [hBlocks] at hAverage
  have hRun :
      ∃ p,
        IsRun (.average method.kernel) method c events p ∧
          p.answer.isSome = true :=
    ⟨_, ⟨_, rfl, rfl⟩, rfl⟩
  rcases hRun with ⟨p, hRun, hAnswered⟩
  rcases Option.isSome_iff_exists.mp hAnswered with
    ⟨answer, hAnswer⟩
  rcases hAverage events p hRun with ⟨hOrderly, -⟩
  let config : Config ℚ := .captured .second settings
  have hAligned : data.IsAligned := ⟨by decide, by decide⟩
  have hFirst :
      ∃ part,
        Kernel.counting.sums config data
            ⟨(0 : Nat), (2 : Nat)⟩ =
          .ok part := by
    rw [Kernel.sums_counting rfl (Nat.le_refl 1) hAligned
      (by decide)]
    exact exists_unlessRefused_eq_ok_iff.mpr rfl
  rcases hFirst with ⟨part, hPart⟩
  let last : Except (Error ℚ) (Sums ℚ) :=
    .error (.blockFailed 4)
  have hOutcomes :
      ([⟨0, 2⟩, ⟨2, 2⟩, ⟨4, 2⟩] : List Block).map
          (method.kernel.sums config data) =
        [part].map .ok ++ [.error (.blockFailed 2), last] := by
    rw [List.map_singleton, ← hPart]
    rfl
  rcases
      hOrderly.failed answer hAnswer [part] (.blockFailed 2)
        [last] hOutcomes with
    ⟨hError, hContext⟩
  refine ⟨p, answer, hRun, hAnswer, ?_, ?_, ?_⟩
  · rw [hError]
  · rw [hContext]
    rfl
  · rw [hContext]
    rfl

end Pool

end NeighbourInfo
