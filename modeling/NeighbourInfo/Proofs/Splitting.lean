import NeighbourInfo.Division
import NeighbourInfo.Proofs.Block

/-
  Splitting any number of points into any number of blocks.

  Key definitions include:
    * `NeighbourInfo.Block.Covers`
    * `NeighbourInfo.Block.IsSplit`

  Blocks that tile the points are as a caller sees them: each
  begins where the one before it ends, and each point is in
  one of them.  Only the first block may be longer than the
  others, and there may be more blocks than points.

  This is proven by:
    * `NeighbourInfo.Block.Tiles.isChain`
    * `NeighbourInfo.Block.Tiles.countP_covers`
    * `NeighbourInfo.Block.Tiles.flatMap_points`
    * `NeighbourInfo.Block.isSplit_of_split`
    * `NeighbourInfo.Block.split_points`
-/

------------------------------------------------------------
-- Ends Of Blocks
------------------------------------------------------------

namespace NeighbourInfo

namespace Block

variable {first stop : Nat} {bs : List Block}

/- The first block starts where the tiling does. -/
theorem Tiles.start_eq
    (hTiles : Tiles first bs stop) :
    ∀ b ∈ bs.head?, b.start = first := by
  cases bs with
  | nil => simp
  | cons b bs =>
      rcases hTiles with ⟨m, rfl, -⟩
      simp

/- The last block stops where the tiling does. -/
theorem Tiles.stop_eq
    (hTiles : Tiles first bs stop) :
    ∀ b ∈ bs.getLast?, b.stop = stop := by
  induction bs generalizing first with
  | nil => simp
  | cons b bs ih =>
      rcases hTiles with ⟨m, rfl, hRest⟩
      cases bs with
      | nil =>
          have hSame : first + m = stop := hRest
          simp [Block.stop, ← hSame]
      | cons b' bs =>
          rw [List.getLast?_cons_cons]
          exact ih hRest

/- Each block starts where the one before it stops. -/
theorem Tiles.isChain
    (hTiles : Tiles first bs stop) :
    bs.IsChain fun b b' => b'.start = b.stop := by
  induction bs generalizing first with
  | nil => exact List.isChain_nil
  | cons b bs ih =>
      rcases hTiles with ⟨m, rfl, hRest⟩
      refine List.isChain_cons.mpr ⟨?_, ih hRest⟩
      intro b' hNext
      rw [hRest.start_eq b' hNext]
      rfl

theorem Tiles.length_nonneg
    (hTiles : Tiles first bs stop) :
    ∀ b ∈ bs, 0 ≤ b.length := by
  intro b hB
  rcases hTiles.eq_of_mem hB with ⟨start, m, rfl, -⟩
  exact Int.natCast_nonneg m

end Block

end NeighbourInfo

------------------------------------------------------------
-- Points Of Blocks
------------------------------------------------------------

namespace NeighbourInfo

namespace Block

/- A point is between the two ends of a block. -/
def Covers
    (i : Int)
    (b : Block) :
    Prop :=
  b.start ≤ i ∧ i < b.stop

instance
    (i : Int)
    (b : Block) :
    Decidable (Covers i b) :=
  inferInstanceAs (Decidable (_ ∧ _))

variable {first stop : Nat} {bs : List Block}

private theorem covers_iff
    (i start m : Nat) :
    Covers i ⟨start, m⟩ ↔ i ∈ places ⟨start, m⟩ := by
  rw [places, List.mem_range'_1]
  simp only [Covers, Block.stop, Int.toNat_natCast]
  omega

/- Every point of a tiling is in a single block. -/
theorem Tiles.countP_covers
    (hTiles : Tiles first bs stop)
    {i : Nat}
    (hFirst : first ≤ i)
    (hStop : i < stop) :
    bs.countP (fun b => Covers i b) = 1 := by
  rw [← hTiles.countP_places hFirst hStop]
  apply List.countP_congr
  intro b hB
  rcases hTiles.eq_of_mem hB with ⟨start, m, rfl, -⟩
  simp only [decide_eq_true_eq]
  exact covers_iff i start m

private theorem points_eq
    (start m : Nat) :
    points ⟨start, m⟩ =
      (places ⟨start, m⟩).map fun i : Nat => (i : Int) := by
  simp only [points, places, Int.toNat_natCast,
    List.range'_eq_map_range, List.map_map]
  apply List.map_congr_left
  intro i _
  simp

/- Block by block the points of a tiling come in order. -/
theorem Tiles.flatMap_points
    (hTiles : Tiles first bs stop) :
    bs.flatMap points =
      (List.range' first (stop - first)).map
        fun i : Nat => (i : Int) := by
  rw [← hTiles.flatMap_places, List.map_flatMap]
  apply List.flatMap_congr
  intro b hB
  rcases hTiles.eq_of_mem hB with ⟨start, m, rfl, -⟩
  exact points_eq start m

end Block

end NeighbourInfo

------------------------------------------------------------
-- Splitting Points
------------------------------------------------------------

namespace NeighbourInfo

namespace Block

/-
  So many blocks of a number of points.  They follow on each
  other from the first point to the last one, and each point
  is in one of them.  All but the first are of equal length,
  and what the first has more is less than one point for each
  of the blocks.
-/
structure IsSplit
    (points : Int)
    (blocks : Int)
    (bs : List Block) :
    Prop where
  length_eq : (bs.length : Int) = blocks
  start_eq : ∀ b ∈ bs.head?, b.start = 0
  isChain : bs.IsChain fun b b' => b'.start = b.stop
  length_nonneg : ∀ b ∈ bs, 0 ≤ b.length
  stop_eq : ∀ b ∈ bs.getLast?, b.stop = points
  countP_covers :
    ∀ i, 0 ≤ i → i < points →
      bs.countP (fun b => Covers i b) = 1
  flatMap_points :
    bs.flatMap Block.points =
      (List.range points.toNat).map fun i : Nat => (i : Int)
  length_of_tail :
    ∀ b ∈ bs.tail, b.length = points / blocks
  length_of_head :
    ∀ b ∈ bs.head?,
      points / blocks ≤ b.length ∧
        b.length < points / blocks + blocks

variable {α : Type}

/- All blocks but the first are as long as the quotient. -/
private theorem exists_eq_cons_of_split
    {n t : Nat}
    {bs : List Block}
    (hOk : split (α := α) n (t + 1 : Nat) = .ok bs) :
    ∃ others,
      bs =
          ⟨0, (n / (t + 1) : Nat) + (n % (t + 1) : Nat)⟩ ::
            others ∧
        ∀ b ∈ others, b.length = (n / (t + 1) : Nat) := by
  rw [split_natCast, List.range_succ_eq_map, List.map_cons,
    List.map_map] at hOk
  cases hOk
  refine ⟨_, rfl, ?_⟩
  refine List.forall_mem_map.mpr ?_
  intro i _
  rfl

/- Points are only ever split as they should be. -/
theorem isSplit_of_split
    {n t : Nat}
    {bs : List Block}
    (hOk : split (α := α) n (t + 1 : Nat) = .ok bs) :
    IsSplit n (t + 1 : Nat) bs := by
  obtain ⟨hLength, hTiles⟩ := tiles_of_split hOk
  obtain ⟨others, hBlocks, hOthers⟩ :=
    exists_eq_cons_of_split hOk
  have hExcess : n % (t + 1) < t + 1 :=
    Nat.mod_lt n (Nat.succ_pos t)
  constructor
  case length_eq => exact congrArg Nat.cast hLength
  case start_eq => exact hTiles.start_eq
  case isChain => exact hTiles.isChain
  case length_nonneg => exact hTiles.length_nonneg
  case stop_eq => exact hTiles.stop_eq
  case countP_covers =>
    intro i hFirst hStop
    obtain ⟨i, rfl⟩ := Int.eq_ofNat_of_zero_le hFirst
    exact hTiles.countP_covers (Nat.zero_le i) (by omega)
  case flatMap_points =>
    rw [hTiles.flatMap_points, List.range_eq_range']
    rfl
  case length_of_tail =>
    rw [hBlocks]
    exact hOthers
  case length_of_head =>
    rw [hBlocks]
    intro b hB
    obtain rfl := Option.mem_some_iff.mp hB
    rw [← Int.natCast_div]
    constructor <;> simp only <;> omega

variable [Scalar α] [Literal α]

/-
  What comes of splitting points into blocks.  It succeeds for
  every number of blocks that is positive, and is refused for
  every other number of them.
-/
theorem split_points
    (points : Int)
    (blocks : Int) :
    (0 ≤ points → 1 ≤ blocks →
      ∃ bs,
        split (α := α) points blocks = .ok bs ∧
        Division.ofValues (.whole points : Value α)
            (.whole blocks) =
          .ok (.points bs) ∧
        IsSplit points blocks bs) ∧
    (blocks < 1 →
      split (α := α) points blocks = .error .noBlocks ∧
      Division.ofValues (.whole points : Value α)
          (.whole blocks) =
        .error .noBlocks) := by
  constructor
  · intro hPoints hSome
    obtain ⟨n, rfl⟩ := Int.eq_ofNat_of_zero_le hPoints
    obtain ⟨t, rfl⟩ : ∃ t : Nat, blocks = (t + 1 : Nat) :=
      ⟨(blocks - 1).toNat, by omega⟩
    have hOk := split_natCast (α := α) n t
    refine ⟨_, hOk, ?_, isSplit_of_split hOk⟩
    rw [Division.ofValues_whole, hOk]
    rfl
  · intro hNone
    have hRefused :
        split (α := α) points blocks = .error .noBlocks :=
      if_pos hNone
    refine ⟨hRefused, ?_⟩
    rw [Division.ofValues_whole, hRefused]
    rfl

/- Ten points in three blocks, and two points in five. -/
theorem split_points_few :
    (∃ bs,
      split (α := Float) 10 3 = .ok bs ∧
      IsSplit 10 3 bs ∧
      bs = [⟨0, 4⟩, ⟨4, 3⟩, ⟨7, 3⟩]) ∧
    (∃ bs,
      split (α := Float) 2 5 = .ok bs ∧
      IsSplit 2 5 bs ∧
      bs = [⟨0, 2⟩, ⟨2, 0⟩, ⟨2, 0⟩, ⟨2, 0⟩, ⟨2, 0⟩]) ∧
    (0 : Int) < 1 ∧
    split (α := Float) 7 0 = .error .noBlocks := by
  obtain ⟨hTen, -⟩ := split_points (α := Float) 10 3
  obtain ⟨hTwo, -⟩ := split_points (α := Float) 2 5
  obtain ⟨-, hNone⟩ := split_points (α := Float) 7 0
  obtain ⟨bs, hOk, -, hSplit⟩ := hTen (by decide) (by decide)
  obtain ⟨cs, hOk', -, hSplit'⟩ := hTwo (by decide) (by decide)
  refine ⟨⟨bs, hOk, hSplit, ?_⟩, ⟨cs, hOk', hSplit', ?_⟩,
    zero_lt_one, (hNone zero_lt_one).1⟩
  · cases hOk
    rfl
  · cases hOk'
    rfl

end Block

end NeighbourInfo
