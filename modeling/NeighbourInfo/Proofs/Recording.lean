import NeighbourInfo.Proofs.Evaluation

/-
  What an evaluation has recorded of it.

  Key definitions include:
    * `NeighbourInfo.Observations.countsOf`
    * `NeighbourInfo.Block.total`
    * `NeighbourInfo.Kernel.IsFaithful`

  An evaluation that succeeds has as many blocks as it has
  threads, and they tile the points.  With an average come
  mean counts, and these are the means of the counts that each
  of the points has on its own: none of the points was left
  out, and none counted for two blocks.

  This is proven by:
    * `NeighbourInfo.Evaluation.cases_of_overBlocks`
    * `NeighbourInfo.Evaluation.recorded_of_average`
    * `NeighbourInfo.Evaluation.recorded_of_locals`
-/

------------------------------------------------------------
-- Counts Of Points
------------------------------------------------------------

namespace NeighbourInfo

namespace Observations

variable {α : Type} [Scalar α]

/- The counts of a point, which are none if it is refused. -/
def countsOf
    (algorithm : Algorithm)
    (search : Search α)
    (data : Observations α)
    (i : Nat) :
    Counts :=
  match data.countsAt algorithm search i with
  | .ok counts => counts
  | .error _ => ⟨0, 0, 0⟩

/- All points that have counts have these counts. -/
theorem map_countsOf
    {algorithm : Algorithm}
    {search : Search α}
    {data : Observations α}
    {points : List Nat}
    {counts : List Counts}
    (hOk :
      points.mapM
          (fun i : Nat => data.countsAt algorithm search i) =
        .ok counts) :
    counts = points.map (data.countsOf algorithm search) ∧
      ∀ i ∈ points,
        data.countsAt algorithm search i =
          .ok (data.countsOf algorithm search i) := by
  induction points generalizing counts with
  | nil =>
      cases hOk
      exact ⟨rfl, List.forall_mem_nil _⟩
  | cons i points ih =>
      rw [List.mapM_cons] at hOk
      rcases exists_of_bind_eq_ok hOk with ⟨c, hHead, hOk⟩
      rcases exists_of_bind_eq_ok hOk with ⟨rest, hRest, hOk⟩
      cases hOk
      have hCounts : data.countsOf algorithm search i = c := by
        rw [countsOf, hHead]
      rcases ih hRest with ⟨hMap, hEach⟩
      rw [List.map_cons, hCounts, ← hMap]
      refine ⟨rfl, List.forall_mem_cons.mpr ⟨?_, hEach⟩⟩
      rw [hCounts]
      exact hHead

end Observations

namespace Block

variable {α : Type} [Scalar α]

/-
  The sum over the points of some blocks, as it is added up:
  a single block has nothing to be added to.
-/
def total
    (blocks : List Block)
    (count : Nat → Nat) :
    α :=
  match blocks with
  | [b] => Scalar.ofNat (b.places.map count).sum
  | blocks =>
      Scalar.sum
        (blocks.map fun b =>
          Scalar.ofNat (b.places.map count).sum)

/- In exact arithmetic it is the sum over all points. -/
theorem total_of_tiles
    [Scalar.ExactSums α]
    {blocks : List Block}
    {n : Nat}
    (hTiles : Tiles 0 blocks n)
    (count : Nat → Nat) :
    (total blocks count : α) =
      Scalar.ofNat ((List.range n).map count).sum := by
  have hSums :
      ∀ bs : List Block,
        (Scalar.sum
            (bs.map fun b =>
              Scalar.ofNat (b.places.map count).sum) : α) =
          Scalar.ofNat
            ((bs.flatMap places).map count).sum := by
    intro bs
    induction bs with
    | nil => exact Scalar.ExactSums.ofInt_zero.symm
    | cons b bs ih =>
        rw [List.map_cons, Scalar.sum_cons, ih,
          List.flatMap_cons, List.map_append, List.sum_append,
          Scalar.ofNat_add]
  have hPlaces := hTiles.flatMap_places
  rw [Nat.sub_zero, ← List.range_eq_range'] at hPlaces
  rw [← hPlaces]
  unfold total
  split
  · rw [List.flatMap_singleton]
  · exact hSums blocks

end Block

namespace Sums

variable {α : Type} [Scalar α]

/- A part that adds up on its own is summed on its own. -/
private theorem part_total
    {part : Sums α → α}
    (hZero : part zero = 0)
    (hAdd : ∀ s t, part (s.add t) = part s + part t)
    (sums : List (Sums α)) :
    part (total sums) = Scalar.sum (sums.map part) := by
  have hFold :
      ∀ s,
        part (sums.foldl add s) =
          (sums.map part).foldl (· + ·) (part s) := by
    induction sums with
    | nil => exact fun _ => rfl
    | cons t sums ih =>
        intro s
        rw [List.foldl_cons, ih, hAdd, List.map_cons,
          List.foldl_cons]
  rw [total, hFold, hZero]
  rfl

/- The sums over some blocks, as they are added up. -/
def ofBlocks
    (algorithm : Algorithm)
    (blocks : List Block)
    (counts : Nat → Counts) :
    Sums α :=
  match blocks with
  | [b] => ofCounts algorithm (b.places.map counts)
  | blocks =>
      total
        (blocks.map fun b =>
          ofCounts algorithm (b.places.map counts))

/- A part that sums up a count is its sum over the blocks. -/
theorem part_ofBlocks
    {algorithm : Algorithm}
    {part : Sums α → α}
    {count : Counts → Nat}
    (hZero : part zero = 0)
    (hAdd : ∀ s t, part (s.add t) = part s + part t)
    (hPart :
      ∀ counts,
        part (ofCounts algorithm counts) =
          Scalar.ofNat (ofCount count counts))
    (blocks : List Block)
    (counts : Nat → Counts) :
    part (ofBlocks algorithm blocks counts) =
      Block.total blocks fun i => count (counts i) := by
  have hBlock :
      ∀ b : Block,
        part (ofCounts algorithm (b.places.map counts)) =
          Scalar.ofNat
            (b.places.map fun i => count (counts i)).sum := by
    intro b
    rw [hPart, ofCount_map]
  unfold ofBlocks Block.total
  split
  · exact hBlock _
  · rw [part_total hZero hAdd, List.map_map]
    exact
      congrArg Scalar.sum
        (List.map_congr_left fun b _ => hBlock b)

end Sums

end NeighbourInfo

------------------------------------------------------------
-- Faithful Kernels
------------------------------------------------------------

namespace NeighbourInfo

namespace Kernel

variable {α : Type} [Scalar α]

/-
  What the kernel sums up, where it does, are the counts of
  the points of the block.
-/
def IsFaithful
    (kernel : Kernel α) :
    Prop :=
  ∀ (config : Config α) (data : Observations α)
      (start m : Nat) (sums : Sums α),
    kernel.sums config data ⟨start, m⟩ = .ok sums →
      let counts :=
        data.countsOf config.algorithm config.search
      sums =
          .ofCounts config.algorithm
            ((List.range' start m).map counts) ∧
        ∀ i ∈ List.range' start m,
          data.countsAt config.algorithm config.search i =
            .ok (counts i)

theorem isFaithful_counting :
    (counting : Kernel α).IsFaithful := by
  intro config data start m sums hOk
  rcases exists_of_bind_eq_ok hOk with ⟨counts, hBlock, hOk⟩
  cases hOk
  have hLength : ¬ (m : Int) < 0 := by omega
  rw [blockCounts, if_neg hLength, Block.points_natCast,
    List.mapM_map] at hBlock
  rcases Observations.map_countsOf hBlock with ⟨rfl, hEach⟩
  exact ⟨rfl, hEach⟩

theorem isFaithful_missing :
    (missing : Kernel α).IsFaithful := by
  intro config data start m sums hOk
  cases hOk

/- A kernel that fails on some blocks sums up the others. -/
theorem IsFaithful.failingFrom
    {kernel : Kernel α}
    (hFaithful : kernel.IsFaithful)
    (first : Int) :
    (kernel.failingFrom first).IsFaithful := by
  intro config data start m sums hOk
  simp only [Kernel.failingFrom] at hOk
  split at hOk
  · cases hOk
  · exact hFaithful config data start m sums hOk

end Kernel

end NeighbourInfo

------------------------------------------------------------
-- Evaluations That Succeed
------------------------------------------------------------

namespace NeighbourInfo

/- Where all went well, both of two parts went well. -/
theorem Report.exists_of_bind_ok
    {α β γ : Type}
    {r : Report α β}
    {f : β → Report α γ}
    {c : γ}
    (hOk : (r >>= f).result = .ok c) :
    ∃ b, r.result = .ok b ∧ (f b).result = .ok c := by
  rw [result_bind] at hOk
  exact exists_of_bind_eq_ok hOk

namespace Evaluation

variable {α β : Type} [Scalar α]
variable {config : Config α}

/-
  The blocks of an evaluation, and what they come to: a single
  one is all there is, and several are merged.
-/
theorem cases_of_overBlocks
    {n : Nat}
    {contribute : Block → Except (Error α) β}
    {merge : List (Block × β) → β}
    {blocks : List Block}
    {merged : β}
    (hOk :
      (overBlocks config n contribute merge).result =
        .ok (blocks, merged)) :
    blocks.length = config.threads.toNat ∧
      Block.Tiles 0 blocks n ∧
      ((blocks = [⟨0, n⟩] ∧ contribute ⟨0, n⟩ = .ok merged) ∨
        blocks.length ≠ 1 ∧
          ∃ parts,
            blocks.mapM contribute = .ok parts ∧
              merged = merge (blocks.zip parts)) := by
  unfold overBlocks at hOk
  rcases Report.exists_of_bind_ok hOk with ⟨isFew, -, hOk⟩
  rcases Report.exists_of_bind_ok hOk with ⟨-, -, hOk⟩
  dsimp only at hOk
  split at hOk
  · next hSingle =>
      rcases Report.exists_of_bind_ok hOk with
        ⟨part, hPart, hOk⟩
      cases hOk
      exact
        ⟨hSingle.symm, ⟨n, rfl, Nat.zero_add n⟩,
          Or.inl ⟨rfl, hPart⟩⟩
  · next hSeveral =>
      rcases Report.exists_of_bind_ok hOk with
        ⟨split, hSplit, hOk⟩
      rcases Report.exists_of_bind_ok hOk with ⟨-, -, hOk⟩
      rcases Report.exists_of_bind_ok hOk with
        ⟨parts, hParts, hOk⟩
      cases hOk
      rcases Block.tiles_of_split hSplit with
        ⟨hLength, hTiles⟩
      exact
        ⟨hLength, hTiles,
          Or.inr
            ⟨by rwa [hLength], parts, hParts, rfl⟩⟩

variable {data : Observations α} {kernel : Kernel α}

/- The local values of some points, recorded without means. -/
theorem recorded_of_locals
    {computation : Computation α}
    {values : List α}
    (hOk :
      (locals kernel config data).result =
        .ok (computation, values)) :
    computation.points = data.size ∧
      computation.threads = config.threads ∧
      computation.blocks.length = config.threads.toNat ∧
      Block.Tiles 0 computation.blocks data.size ∧
      computation.means = none := by
  unfold locals at hOk
  rcases Report.exists_of_bind_ok hOk with
    ⟨⟨blocks, merged⟩, hOver, hOk⟩
  cases hOk
  rcases cases_of_overBlocks hOver with ⟨hLength, hTiles, -⟩
  exact ⟨rfl, rfl, hLength, hTiles, rfl⟩

/- The counts that were summed up over the blocks. -/
theorem sums_of_overBlocks
    (hFaithful : kernel.IsFaithful)
    {blocks : List Block}
    {sums : Sums α}
    (hOk :
      (overBlocks config data.size (kernel.sums config data)
          fun parts => Sums.total (parts.map Prod.snd)).result =
        .ok (blocks, sums)) :
    let counts := data.countsOf config.algorithm config.search
    sums = .ofBlocks config.algorithm blocks counts ∧
      ∀ i < data.size,
        data.countsAt config.algorithm config.search i =
          .ok (counts i) := by
  intro counts
  rcases cases_of_overBlocks hOk with
    ⟨-, hTiles, ⟨rfl, hPart⟩ | ⟨hSeveral, parts, hParts, rfl⟩⟩
  · rcases hFaithful config data 0 data.size sums hPart with
      ⟨rfl, hEach⟩
    refine ⟨rfl, fun i hI => hEach i ?_⟩
    rw [← List.range_eq_range']
    exact List.mem_range.mpr hI
  · have hRead := mapM_eq_ok_iff.mp hParts
    have hBlock :
        ∀ b ∈ blocks,
          kernel.sums config data b =
              .ok
                (.ofCounts config.algorithm
                  (b.places.map counts)) ∧
            ∀ i ∈ b.places,
              data.countsAt config.algorithm config.search i =
                .ok (counts i) := by
      intro b hB
      have hMem : kernel.sums config data b ∈ parts.map .ok := by
        rw [← hRead]
        exact List.mem_map_of_mem hB
      rcases List.mem_map.mp hMem with ⟨part, -, hPart⟩
      rcases hTiles.eq_of_mem hB with ⟨start, m, rfl, -⟩
      rcases hFaithful config data start m part hPart.symm with
        ⟨rfl, hEach⟩
      exact ⟨hPart.symm, hEach⟩
    have hAll :
        parts =
          blocks.map fun b =>
            .ofCounts config.algorithm
              (b.places.map counts) := by
      have hOks :=
        List.map_congr_left fun b hB => (hBlock b hB).1
      rw [hRead] at hOks
      apply List.map_injective_iff.mpr fun _ _ => Except.ok.inj
      rw [hOks, List.map_map]
      rfl
    refine ⟨?_, fun i hI => ?_⟩
    · rw [hAll, List.map_snd_zip (by simp)]
      unfold Sums.ofBlocks
      split
      · exact absurd rfl hSeveral
      · rfl
    · have hPlaces := hTiles.flatMap_places
      rw [Nat.sub_zero, ← List.range_eq_range'] at hPlaces
      have hMem : i ∈ blocks.flatMap Block.places := by
        rw [hPlaces]
        exact List.mem_range.mpr hI
      rcases List.mem_flatMap.mp hMem with ⟨b, hB, hPlace⟩
      exact (hBlock b hB).2 i hPlace

/-
  The average of some points, recorded with the means of the
  counts that each of them has.
-/
theorem recorded_of_average
    (hFaithful : kernel.IsFaithful)
    {computation : Computation α}
    {value : α}
    (hOk :
      (average kernel config data).result =
        .ok (computation, value)) :
    let counts := data.countsOf config.algorithm config.search
    computation.points = data.size ∧
      computation.threads = config.threads ∧
      computation.blocks.length = config.threads.toNat ∧
      Block.Tiles 0 computation.blocks data.size ∧
      computation.means =
        some
          ((Sums.ofBlocks config.algorithm computation.blocks
              counts).dividedBy
            (Scalar.ofNat data.size)) ∧
      ∀ i < data.size,
        data.countsAt config.algorithm config.search i =
          .ok (counts i) := by
  intro counts
  unfold average at hOk
  rcases Report.exists_of_bind_ok hOk with
    ⟨⟨blocks, sums⟩, hOver, hOk⟩
  rcases Report.exists_of_bind_ok hOk with ⟨k, -, hOk⟩
  rcases Report.exists_of_bind_ok hOk with ⟨-, -, hOk⟩
  cases hOk
  rcases cases_of_overBlocks hOver with ⟨hLength, hTiles, -⟩
  rcases sums_of_overBlocks hFaithful hOver with ⟨rfl, hEach⟩
  exact ⟨rfl, rfl, hLength, hTiles, rfl, hEach⟩

end Evaluation

end NeighbourInfo
