import NeighbourInfo.Method
import NeighbourInfo.Proofs.Block
import NeighbourInfo.Proofs.Kernel
import NeighbourInfo.Proofs.Scalar.Exact

/-
  Evaluations do not depend on how the points are divided.

  Key definitions include:
    * `NeighbourInfo.Window.firstRefusal?`

  The blocks tile the points, the first block that fails does
  so for the first point that is refused, and what the blocks
  contribute comes to what all points contribute at once.

  This is proven by:
    * `NeighbourInfo.Evaluation.exists_result_overBlocks`
    * `NeighbourInfo.Evaluation.exists_result_locals`
    * `NeighbourInfo.Evaluation.exists_result_average`
    * `NeighbourInfo.Method.counting_threads`
-/

------------------------------------------------------------
-- Blocks
------------------------------------------------------------

namespace NeighbourInfo

namespace Evaluation

variable {α β : Type}

/- Blocks that tile some points are refused as these are. -/
theorem mapM_of_tiles
    {first stop : Nat}
    {blocks : List Block}
    (hTiles : Block.Tiles first blocks stop)
    {contribute : Block → Except (Error α) β}
    {refusal : Nat → Option (Error α)}
    {part : List Nat → β}
    (hEach :
      ∀ start m : Nat, start + m ≤ stop →
        contribute ⟨start, m⟩ =
          unlessRefused
            ((List.range' start m).findSome? refusal)
            (part (List.range' start m))) :
    blocks.mapM contribute =
      unlessRefused
        ((List.range' first (stop - first)).findSome? refusal)
        (blocks.map fun b => part b.places) := by
  have hBlocks :
      ∀ b ∈ blocks,
        contribute b =
          unlessRefused (b.places.findSome? refusal)
            (part b.places) := by
    intro b hB
    rcases hTiles.eq_of_mem hB with ⟨start, m, rfl, hFits⟩
    exact hEach start m hFits
  rw [mapM_unlessRefused hBlocks, ← hTiles.flatMap_places,
    findSome?_flatMap]

variable [Scalar α]
variable {config : Config α}
variable {k n : Nat}
variable {contribute : Block → Except (Error α) β}
variable (merge : List (Block × β) → β)

/- A single thread has what one block contributes. -/
theorem result_overBlocks_single
    (hWhole : config.search.k = .whole k)
    (hSingle : config.threads.toNat = 1) :
    (overBlocks config n contribute merge).result =
      (contribute ⟨0, n⟩).map fun c => ([⟨0, n⟩], c) := by
  simp only [overBlocks, hWhole, areFew, hSingle, if_true,
    Report.result_bind, Report.result_ofExcept]
  cases contribute ⟨0, n⟩ with
  | error e => rfl
  | ok c => rfl

/- Several threads have what their blocks contribute. -/
theorem result_overBlocks_several
    {isFew : Bool}
    (hFew : areFew n config.search.k = .ok isFew)
    (hSeveral : config.threads.toNat ≠ 1)
    {blocks : List Block}
    (hSplit :
      Block.split (α := α) n config.threads.toNat =
        .ok blocks) :
    (overBlocks config n contribute merge).result =
      (blocks.mapM contribute).map fun parts =>
        (blocks, merge (blocks.zip parts)) := by
  simp only [overBlocks, hFew, hSeveral, if_false, hSplit,
    Report.result_bind, Report.result_ofExcept]
  change
    (blocks.mapM contribute).bind
        (fun parts => .ok (blocks, merge (blocks.zip parts))) =
      _
  cases blocks.mapM contribute with
  | error e => rfl
  | ok parts => rfl

theorem result_overBlocks_split
    (hWhole : config.search.k = .whole k)
    (hSeveral : config.threads.toNat ≠ 1)
    {blocks : List Block}
    (hSplit :
      Block.split (α := α) n config.threads.toNat =
        .ok blocks) :
    (overBlocks config n contribute merge).result =
      (blocks.mapM contribute).map fun parts =>
        (blocks, merge (blocks.zip parts)) := by
  have hFew :
      areFew n config.search.k = .ok ((n : Int) < 2 * k) := by
    rw [hWhole, areFew]
  exact result_overBlocks_several merge hFew hSeveral hSplit

/-
  What all points contribute: the refusal of the first point
  that is refused, or else the contributions of blocks that
  tile the points.  A single thread computes one block.
-/
theorem exists_result_overBlocks
    (hWhole : config.search.k = .whole k)
    (hThreads : 1 ≤ config.threads.toNat)
    {refusal : Nat → Option (Error α)}
    {part : List Nat → β}
    (hEach :
      ∀ start m : Nat, start + m ≤ n →
        contribute ⟨start, m⟩ =
          unlessRefused
            ((List.range' start m).findSome? refusal)
            (part (List.range' start m))) :
    ∃ blocks merged,
      (overBlocks config n contribute merge).result =
          unlessRefused ((List.range n).findSome? refusal)
            (blocks, merged) ∧
        Block.Tiles 0 blocks n ∧
        blocks.length = config.threads.toNat ∧
        (merged = part (List.range n) ∨
          merged =
            merge
              (blocks.zip
                (blocks.map fun b => part b.places))) := by
  rw [List.range_eq_range']
  by_cases hSingle : config.threads.toNat = 1
  · have hOne := hEach 0 n (by omega)
    have hTiles : Block.Tiles 0 [⟨0, n⟩] n :=
      ⟨n, rfl, Nat.zero_add n⟩
    refine
      ⟨_, _, ?_, hTiles, hSingle.symm, Or.inl rfl⟩
    rw [result_overBlocks_single merge hWhole hSingle]
    change (contribute ⟨((0 : Nat) : Int), n⟩).map _ = _
    rw [hOne, map_unlessRefused]
  · rcases Block.tiles_split (α := α) n hThreads with
      ⟨blocks, hSplit, hLength, hTiles⟩
    refine
      ⟨blocks, _, ?_, hTiles, hLength, Or.inr rfl⟩
    rw [result_overBlocks_split merge hWhole hSingle hSplit,
      mapM_of_tiles hTiles hEach, map_unlessRefused]
    rfl

/-
  What several blocks contribute comes to what all points
  contribute, if contributions are merged faithfully.
-/
theorem exists_result_overBlocks_of_merge
    (hWhole : config.search.k = .whole k)
    (hThreads : 1 ≤ config.threads.toNat)
    {refusal : Nat → Option (Error α)}
    {part : List Nat → β}
    (hEach :
      ∀ start m : Nat, start + m ≤ n →
        contribute ⟨start, m⟩ =
          unlessRefused
            ((List.range' start m).findSome? refusal)
            (part (List.range' start m)))
    (hMerge :
      ∀ blocks, Block.Tiles 0 blocks n →
        merge
            (blocks.zip
              (blocks.map fun b => part b.places)) =
          part (List.range n)) :
    ∃ blocks,
      (overBlocks config n contribute merge).result =
          unlessRefused ((List.range n).findSome? refusal)
            (blocks, part (List.range n)) ∧
        Block.Tiles 0 blocks n ∧
        blocks.length = config.threads.toNat := by
  rcases
      exists_result_overBlocks merge hWhole hThreads hEach with
    ⟨blocks, merged, hResult, hTiles, hLength, hMerged⟩
  have hAll : merged = part (List.range n) := by
    rcases hMerged with hSingle | hSeveral
    · exact hSingle
    · rw [hSeveral, hMerge blocks hTiles]
  rw [hAll] at hResult
  exact ⟨blocks, hResult, hTiles, hLength⟩

/- If all beginnings fail alike, the evaluation fails so. -/
theorem result_overBlocks_of_error
    (hWhole : config.search.k = .whole k)
    (hThreads : 1 ≤ config.threads.toNat)
    (hPoints : 1 ≤ n)
    {e : Error α}
    (hFails :
      ∀ m : Nat, 1 ≤ m → m ≤ n →
        contribute ⟨0, m⟩ = .error e) :
    (overBlocks config n contribute merge).result =
      .error e := by
  by_cases hSingle : config.threads.toNat = 1
  · rw [result_overBlocks_single merge hWhole hSingle,
      hFails n hPoints (Nat.le_refl n)]
    rfl
  · rcases
        Block.exists_split_eq_cons (α := α) hPoints hThreads with
      ⟨m, hSome, hMost, blocks, hSplit⟩
    rw [result_overBlocks_split merge hWhole hSingle hSplit,
      List.mapM_cons, hFails m hSome hMost]
    rfl

end Evaluation

end NeighbourInfo

------------------------------------------------------------
-- Merging
------------------------------------------------------------

namespace NeighbourInfo

namespace Evaluation

variable {α β : Type}

/- The values of blocks that tile all points, in order. -/
theorem assemble_zip_of_tiles
    {blocks : List Block}
    {empty : List β}
    (hTiles : Block.Tiles 0 blocks empty.length)
    (value : Nat → β) :
    assemble empty
        (blocks.zip
          (blocks.map fun b => b.places.map value)) =
      (List.range empty.length).map value := by
  have hParts :
      blocks.zip (blocks.map fun b => b.places.map value) =
        blocks.map fun b => (b, b.places.map value) := by
    simpa using
      List.zip_map' (l := blocks) (f := id)
        (g := fun b => b.places.map value)
  have hFirsts :
      (blocks.map fun b => (b, b.places.map value)).map
          Prod.fst = blocks := by
    rw [List.map_map]
    exact List.map_id blocks
  have hLengths :
      ∀ part ∈ blocks.map fun b => (b, b.places.map value),
        part.2.length = part.1.length.toNat := by
    refine List.forall_mem_map.mpr ?_
    intro b hB
    simp [Block.places]
  have hPoints := hTiles.flatMap_places
  rw [← hFirsts] at hTiles
  rw [hParts, assemble_of_tiles hTiles hLengths (Nat.le_refl _),
    List.take_zero, List.drop_length, List.append_nil,
    List.nil_append, List.flatMap_map, ← List.map_flatMap,
    hPoints, Nat.sub_zero, List.range_eq_range']

/- The sums of blocks that tile all points. -/
theorem total_zip_of_tiles
    [Scalar α]
    [Scalar.ExactSums α]
    (algorithm : Algorithm)
    {blocks : List Block}
    {n : Nat}
    (hTiles : Block.Tiles 0 blocks n)
    (counts : Nat → Counts) :
    (Sums.total
        ((blocks.zip
            (blocks.map fun b =>
              Sums.ofCounts algorithm
                (b.places.map counts))).map Prod.snd) :
        Sums α) =
      Sums.ofCounts algorithm
        ((List.range n).map counts) := by
  rw [List.map_snd_zip (by simp),
    Sums.total_map_ofCounts algorithm
      fun b : Block => b.places.map counts,
    ← List.map_flatMap, hTiles.flatMap_places,
    Nat.sub_zero, List.range_eq_range']

end Evaluation

end NeighbourInfo

------------------------------------------------------------
-- Counting
------------------------------------------------------------

namespace NeighbourInfo

namespace Window

variable {α : Type}

/- The reason to refuse the first of `n` points that is. -/
def firstRefusal?
    (window : Nat)
    (k : Nat)
    (n : Nat) :
    Option (Error α) :=
  (List.range n).findSome? (refusal? window k n)

theorem refusal?_eq_some
    {window k n i : Nat}
    (hFew : (admissible window i n).length < k) :
    refusal? (α := α) window k n i =
      some
        (.tooFewNeighbours i (admissible window i n).length
          (.whole k)) := by
  rw [refusal?, if_pos hFew]

theorem firstRefusal?_eq_some
    {window k n i : Nat}
    (hPoint : i < n)
    (hFew : (admissible window i n).length < k)
    (hEnough : ∀ j < i, k ≤ (admissible window j n).length) :
    firstRefusal? (α := α) window k n =
      some
        (.tooFewNeighbours i (admissible window i n).length
          (.whole k)) := by
  rcases Nat.exists_eq_add_of_lt hPoint with ⟨rest, rfl⟩
  have hRange :
      List.range (i + rest + 1) =
        List.range i ++ i :: List.range' (i + 1) rest := by
    rw [List.range_eq_range', List.range_eq_range',
      ← List.range'_succ, Nat.add_assoc,
      ← List.range'_append_1, Nat.zero_add]
  rw [firstRefusal?, hRange, List.findSome?_append,
    findSome?_refusal_eq_none, List.findSome?_cons,
    refusal?_eq_some hFew]
  · rfl
  · intro j hJ
    exact hEnough j (List.mem_range.mp hJ)

/- More neighbours than points are refused at once. -/
theorem admissible_length_lt
    {window k n : Nat}
    (hMany : n < k)
    (i : Nat) :
    (admissible window i n).length < k :=
  Nat.lt_of_le_of_lt (length_admissible_le window i n) hMany

end Window

namespace Evaluation

variable {α : Type} [Scalar α]
variable {config : Config α}
variable {k : Nat} {norm : Norm} {window : Nat}

/- The local values of all points, with any threads. -/
theorem exists_result_locals
    (hSearch : config.search = ⟨.whole k, norm, window⟩)
    (hThreads : 1 ≤ config.threads.toNat)
    (hPos : 1 ≤ k)
    {data : Observations α}
    (hAligned : data.IsAligned)
    (hSome : 1 ≤ data.size)
    (hSize : data.size < 2 ^ 63) :
    ∃ blocks,
      (locals .counting config data).result =
          unlessRefused
            (Window.firstRefusal? window k data.size)
            (⟨data.size, config.threads, blocks, none⟩,
              (List.range data.size).map fun i =>
                Counts.localValue config.algorithm
                  (Scalar.ofNat k)
                  (data.pointCounts config.algorithm norm
                    window k i)) ∧
        Block.Tiles 0 blocks data.size ∧
        blocks.length = config.threads.toNat := by
  have hWhole : config.search.k = .whole k := by rw [hSearch]
  let empty := List.replicate data.size (Scalar.nan : α)
  have hEmpty : empty.length = data.size :=
    List.length_replicate
  have hOver :
      ∃ blocks,
        (overBlocks config data.size
            (Kernel.counting.locals config data)
            (assemble empty)).result =
          unlessRefused
            (Window.firstRefusal? window k data.size)
            (blocks,
              (List.range data.size).map fun i =>
                Counts.localValue config.algorithm
                  (Scalar.ofNat k)
                  (data.pointCounts config.algorithm norm
                    window k i)) ∧
          Block.Tiles 0 blocks data.size ∧
          blocks.length = config.threads.toNat := by
    -- The formula takes a `k` up to the number of points.  If
    -- `k` is greater, the first point is refused before that.
    by_cases hMany : k ≤ data.size
    · have hBits : k < 2 ^ 63 := Nat.lt_of_le_of_lt hMany hSize
      refine
        exists_result_overBlocks_of_merge (assemble empty)
          hWhole hThreads
          (fun start m hFits =>
            Kernel.locals_counting hSearch hPos hBits hAligned
              hFits) ?_
      intro blocks hTiles
      rw [← hEmpty] at hTiles ⊢
      exact assemble_zip_of_tiles hTiles _
    · have hFew :
          (Window.admissible window 0 data.size).length < k :=
        Window.admissible_length_lt (Nat.lt_of_not_le hMany) 0
      rcases
          Block.tiles_split (α := α) data.size hThreads with
        ⟨blocks, -, hLength, hTiles⟩
      refine ⟨blocks, ?_, hTiles, hLength⟩
      rw [Window.firstRefusal?_eq_some hSome hFew (by simp)]
      apply
        result_overBlocks_of_error (assemble empty) hWhole
          hThreads hSome
      intro m hM hFits
      have hBlock : 0 + m ≤ data.size := by omega
      refine
        Kernel.locals_counting_of_refused hSearch hPos hAligned
          hBlock ?_
      rcases Nat.exists_eq_add_of_le' hM with ⟨m, rfl⟩
      rw [List.range'_succ, List.findSome?_cons,
        Window.refusal?_eq_some hFew]
  rcases hOver with ⟨blocks, hResult, hTiles, hLength⟩
  refine ⟨blocks, ?_, hTiles, hLength⟩
  rw [locals, Report.result_bind, hResult]
  cases Window.firstRefusal? (α := α) window k data.size with
  | some e => rfl
  | none => rfl

/- The average over all points, with any threads. -/
theorem exists_result_average
    (hSearch : config.search = ⟨.whole k, norm, window⟩)
    (hThreads : 1 ≤ config.threads.toNat)
    (hPos : 1 ≤ k)
    {data : Observations α}
    (hAligned : data.IsAligned)
    (hSome : 1 ≤ data.size)
    (hSize : data.size < 2 ^ 63) :
    ∃ blocks means,
      (average .counting config data).result =
          unlessRefused
            (Window.firstRefusal? window k data.size)
            (⟨data.size, config.threads, blocks, some means⟩,
              means.average config.algorithm
                (Scalar.ofNat k)) ∧
        Block.Tiles 0 blocks data.size ∧
        blocks.length = config.threads.toNat ∧
        (Scalar.ExactSums α →
          means =
            (Sums.ofCounts config.algorithm
                ((List.range data.size).map
                  (data.pointCounts config.algorithm norm
                    window k))).dividedBy
              (Scalar.ofNat data.size)) := by
  have hWhole : config.search.k = .whole k := by rw [hSearch]
  let part (points : List Nat) : Sums α :=
    Sums.ofCounts config.algorithm
      (points.map
        (data.pointCounts config.algorithm norm window k))
  have hEach :
      ∀ start m : Nat, start + m ≤ data.size →
        Kernel.counting.sums config data ⟨start, m⟩ =
          unlessRefused
            ((List.range' start m).findSome?
              (Window.refusal? window k data.size))
            (part (List.range' start m)) :=
    fun start m hFits =>
      Kernel.sums_counting hSearch hPos hAligned hFits
  rcases
      exists_result_overBlocks
        (fun parts => Sums.total (parts.map Prod.snd)) hWhole
        hThreads hEach with
    ⟨blocks, sums, hResult, hTiles, hLength, hSums⟩
  refine
    ⟨blocks, sums.dividedBy (Scalar.ofNat data.size), ?_,
      hTiles, hLength, ?_⟩
  · rw [average, Report.result_bind, hResult]
    by_cases hMany : k ≤ data.size
    · have hWord := Value.isWord_of_lt (by omega : k < 2 ^ 63)
      rw [← Window.firstRefusal?]
      cases Window.firstRefusal? (α := α) window k
          data.size with
      | some e => rfl
      | none =>
          simp only [unlessRefused_none, Except.bind, hWhole,
            Value.toArgument, hWord, if_true]
          rfl
    · have hFew :
          (Window.admissible window 0 data.size).length < k :=
        Window.admissible_length_lt (Nat.lt_of_not_le hMany) 0
      rw [← Window.firstRefusal?,
        Window.firstRefusal?_eq_some hSome hFew (by simp)]
      rfl
  · intro hExact
    congr 1
    rcases hSums with hSingle | hSeveral
    · exact hSingle
    · rw [hSeveral]
      exact total_zip_of_tiles config.algorithm hTiles _

end Evaluation

end NeighbourInfo

------------------------------------------------------------
-- Numbers Of Threads
------------------------------------------------------------

namespace NeighbourInfo

namespace Window

variable {α : Type}

/- If no point is refused then all have enough others. -/
theorem firstRefusal?_eq_none
    {window k n : Nat}
    (hEnough : ∀ i < n, k ≤ (admissible window i n).length) :
    firstRefusal? (α := α) window k n = none := by
  apply findSome?_refusal_eq_none
  intro i hI
  exact hEnough i (List.mem_range.mp hI)

end Window

theorem Settings.search_of_whole
    {α : Type}
    {settings : Settings α}
    {k : Nat}
    (hWhole : settings.k = .whole k) :
    settings.search =
      ⟨.whole k, settings.norm, settings.window⟩ := by
  rw [Settings.search, hWhole]

namespace Method

variable {α : Type} [Scalar α]
variable {settings : Settings α}
variable {k : Nat}

/- The local values that a method gives by counting. -/
theorem result_locals_counting
    (algorithm : Algorithm)
    (hWhole : settings.k = .whole k)
    (hThreads : 1 ≤ settings.threads.toNat)
    (hPos : 1 ≤ k)
    {data : Observations α}
    (hAligned : data.IsAligned)
    (hSome : 1 ≤ data.size)
    (hSize : data.size < 2 ^ 63) :
    ((counting algorithm).locals settings data).result.map
        Prod.snd =
      unlessRefused
        (Window.firstRefusal? settings.window k data.size)
        ((List.range data.size).map fun i =>
          Counts.localValue algorithm (Scalar.ofNat k)
            (data.pointCounts algorithm settings.norm
              settings.window k i)) := by
  let config : Config α :=
    ⟨algorithm, settings.search, settings.threads,
      settings.debug⟩
  have hSearch :
      config.search =
        ⟨.whole k, settings.norm, settings.window⟩ :=
    Settings.search_of_whole hWhole
  rcases
      Evaluation.exists_result_locals hSearch hThreads hPos
        hAligned hSome hSize with
    ⟨blocks, hResult, -⟩
  change
    (Evaluation.locals .counting config data).result.map
        Prod.snd = _
  rw [hResult, map_unlessRefused]

/- What a method computes with the average by counting. -/
theorem exists_average_counting
    (algorithm : Algorithm)
    (hWhole : settings.k = .whole k)
    (hThreads : 1 ≤ settings.threads.toNat)
    (hPos : 1 ≤ k)
    {data : Observations α}
    (hAligned : data.IsAligned)
    (hSome : 1 ≤ data.size)
    (hSize : data.size < 2 ^ 63) :
    ∃ (blocks : List Block) (means : Sums α),
      ((counting algorithm).average settings data).result =
        unlessRefused
          (Window.firstRefusal? settings.window k data.size)
          (⟨data.size, settings.threads, blocks, some means⟩,
            means.average algorithm (Scalar.ofNat k)) ∧
      (Scalar.ExactSums α →
        means =
          (Sums.ofCounts algorithm
              ((List.range data.size).map
                (data.pointCounts algorithm settings.norm
                  settings.window k))).dividedBy
            (Scalar.ofNat data.size)) := by
  let config : Config α :=
    ⟨algorithm, settings.search, settings.threads,
      settings.debug⟩
  have hSearch :
      config.search =
        ⟨.whole k, settings.norm, settings.window⟩ :=
    Settings.search_of_whole hWhole
  rcases
      Evaluation.exists_result_average hSearch hThreads hPos
        hAligned hSome hSize with
    ⟨blocks, means, hResult, -, -, hMeans⟩
  exact ⟨blocks, means, hResult, hMeans⟩

/- The average that a method gives by counting. -/
private theorem exists_result_average_counting
    (algorithm : Algorithm)
    (hWhole : settings.k = .whole k)
    (hThreads : 1 ≤ settings.threads.toNat)
    (hPos : 1 ≤ k)
    {data : Observations α}
    (hAligned : data.IsAligned)
    (hSome : 1 ≤ data.size)
    (hSize : data.size < 2 ^ 63) :
    ∃ means : Sums α,
      ((counting algorithm).average settings data).result.map
          Prod.snd =
        unlessRefused
          (Window.firstRefusal? settings.window k data.size)
          (means.average algorithm (Scalar.ofNat k)) ∧
      (Scalar.ExactSums α →
        means =
          (Sums.ofCounts algorithm
              ((List.range data.size).map
                (data.pointCounts algorithm settings.norm
                  settings.window k))).dividedBy
            (Scalar.ofNat data.size)) := by
  rcases
      exists_average_counting algorithm hWhole hThreads hPos
        hAligned hSome hSize with
    ⟨blocks, means, hResult, hMeans⟩
  refine ⟨means, ?_, hMeans⟩
  rw [hResult, map_unlessRefused]

/-
  The number of threads makes no difference.  The local values
  are the same whatever the division, and so is the average
  where sums are exact.  If some point has too few admissible
  points, the first such point is named by the error.  There
  are as many points as an array can have.
-/
theorem counting_threads
    (algorithm : Algorithm)
    (hPos : 1 ≤ k)
    (hWhole : settings.k = .whole k)
    {data : Observations α}
    (hAligned : data.IsAligned)
    (hSome : 1 ≤ data.size)
    (hSize : data.size < 2 ^ 63) :
    let under (t : ThreadCount) := { settings with threads := t }
    let method : Method α := .counting algorithm
    let locals (t : ThreadCount) :=
      (method.locals (under t) data).result.map Prod.snd
    let average (t : ThreadCount) :=
      (method.average (under t) data).result.map Prod.snd
    let found (i : Nat) :=
      (Window.admissible settings.window i data.size).length
    (∀ t₁ t₂ : ThreadCount, 1 ≤ t₁.toNat → 1 ≤ t₂.toNat →
      locals t₁ = locals t₂ ∧
        (Scalar.ExactSums α → average t₁ = average t₂)) ∧
    ∀ t : ThreadCount, 1 ≤ t.toNat →
      (∀ i < data.size, found i < k → (∀ j < i, k ≤ found j) →
        let e := Error.tooFewNeighbours i (found i) (.whole k)
        locals t = .error e ∧ average t = .error e) ∧
      ((∀ i < data.size, k ≤ found i) →
        (∃ values,
          locals t = .ok values ∧
            values.length = data.size) ∧
        ∃ value, average t = .ok value) := by
  intro under method locals average found
  have hUnder : ∀ t, (under t).k = .whole k :=
    fun _ => hWhole
  have hLocals :=
    fun (t : ThreadCount) (hT : 1 ≤ t.toNat) =>
      result_locals_counting algorithm (hUnder t) hT hPos
        hAligned hSome hSize
  have hAverage :=
    fun (t : ThreadCount) (hT : 1 ≤ t.toNat) =>
      exists_result_average_counting algorithm (hUnder t) hT
        hPos hAligned hSome hSize
  constructor
  · intro t₁ t₂ hT₁ hT₂
    constructor
    · exact (hLocals t₁ hT₁).trans (hLocals t₂ hT₂).symm
    · intro hExact
      rcases hAverage t₁ hT₁ with ⟨means₁, hValue₁, hMeans₁⟩
      rcases hAverage t₂ hT₂ with ⟨means₂, hValue₂, hMeans₂⟩
      rw [hMeans₁ hExact] at hValue₁
      rw [hMeans₂ hExact] at hValue₂
      exact hValue₁.trans hValue₂.symm
  · intro t hT
    rcases hAverage t hT with ⟨means, hValue, -⟩
    constructor
    · intro i hI hFew hEnough e
      have hRefused :
          Window.firstRefusal? settings.window k data.size =
            some e :=
        Window.firstRefusal?_eq_some hI hFew hEnough
      constructor
      · exact (hLocals t hT).trans (by rw [hRefused]; rfl)
      · exact hValue.trans (by rw [hRefused]; rfl)
    · intro hEnough
      have hNone :
          Window.firstRefusal? (α := α) settings.window k
              data.size = none :=
        Window.firstRefusal?_eq_none hEnough
      constructor
      · refine ⟨_, (hLocals t hT).trans (by rw [hNone]; rfl), ?_⟩
        simp
      · exact ⟨_, hValue.trans (by rw [hNone]; rfl)⟩

/- Three points are evaluated by two threads and by five. -/
theorem counting_threads_rationals :
    let data : Observations ℚ :=
      ⟨⟨1, [[0], [1], [3]]⟩, ⟨1, [[0], [2], [1]]⟩,
        ⟨1, [[0], [0], [1]]⟩⟩
    let settings : Settings ℚ := .initial (.whole 1) (.count 2)
    let average (t : ThreadCount) :=
      ((Method.counting .second).average
        { settings with threads := t } data).result.map Prod.snd
    data.IsAligned ∧ data.size = 3 ∧
      average (.count 2) = average (.count 5) ∧
      ∃ value, average (.count 2) = .ok value := by
  intro data settings average
  have hAligned : data.IsAligned := ⟨by decide, by decide⟩
  have hEnough :
      ∀ i < data.size,
        1 ≤ (Window.admissible settings.window i
          data.size).length := by
    decide
  have hWhole : settings.k = .whole (1 : Nat) := rfl
  rcases
      counting_threads .second (Nat.le_refl 1) hWhole hAligned
        (by decide) (by decide) with
    ⟨hSame, hOutcome⟩
  exact
    ⟨hAligned, rfl,
      (hSame (.count 2) (.count 5) (by decide) (by decide)).2
        inferInstance,
      ((hOutcome (.count 2) (by decide)).2 hEnough).2⟩

end Method

end NeighbourInfo
