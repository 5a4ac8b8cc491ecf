import NeighbourInfo.Evaluation
import Mathlib

/-
  Blocks that tile the points.

  Key definitions include:
    * `NeighbourInfo.Block.places`
    * `NeighbourInfo.Block.Tiles`

  However many blocks the points are divided into, the blocks
  follow on each other without a gap, and values that are
  written block by block end up in the order of the points.

  This is proven by:
    * `NeighbourInfo.Block.tiles_split`
    * `NeighbourInfo.Block.Tiles.flatMap_places`
    * `NeighbourInfo.Block.Tiles.countP_places`
    * `NeighbourInfo.Evaluation.assemble_of_tiles`
    * `NeighbourInfo.Evaluation.take_drop_of_tiles`
-/

------------------------------------------------------------
-- Tilings
------------------------------------------------------------

namespace NeighbourInfo

namespace Block

/- The points of a block as natural numbers. -/
def places
    (b : Block) :
    List Nat :=
  List.range' b.start.toNat b.length.toNat

/- Blocks that follow on each other, from a point to another. -/
def Tiles :
    Nat → List Block → Nat → Prop
  | first, [], stop => first = stop
  | first, b :: bs, stop =>
      ∃ m : Nat, b = ⟨first, m⟩ ∧ Tiles (first + m) bs stop

theorem Tiles.le
    {first stop : Nat}
    {bs : List Block}
    (hTiles : Tiles first bs stop) :
    first ≤ stop := by
  induction bs generalizing first with
  | nil => exact Nat.le_of_eq hTiles
  | cons b bs ih =>
      rcases hTiles with ⟨m, -, hRest⟩
      exact Nat.le_trans (Nat.le_add_right first m) (ih hRest)

/- Every block of a tiling lies within it. -/
theorem Tiles.eq_of_mem
    {first stop : Nat}
    {bs : List Block}
    (hTiles : Tiles first bs stop)
    {b : Block}
    (hMem : b ∈ bs) :
    ∃ start m : Nat, b = ⟨start, m⟩ ∧ start + m ≤ stop := by
  induction bs generalizing first with
  | nil => simp at hMem
  | cons c bs ih =>
      rcases hTiles with ⟨m, rfl, hRest⟩
      rcases List.mem_cons.mp hMem with rfl | hMem
      · exact ⟨first, m, rfl, hRest.le⟩
      · exact ih hRest hMem

/- The blocks of a tiling start where it does, or later. -/
theorem Tiles.le_start_of_mem
    {first stop : Nat}
    {bs : List Block}
    (hTiles : Tiles first bs stop)
    {b : Block}
    (hMem : b ∈ bs) :
    first ≤ b.start.toNat := by
  induction bs generalizing first with
  | nil => cases hMem
  | cons c bs ih =>
      rcases hTiles with ⟨m, rfl, hRest⟩
      rcases List.mem_cons.mp hMem with rfl | hMem
      · exact Nat.le_refl first
      · exact Nat.le_of_add_right_le (ih hRest hMem)

/- Every point of a tiling has its place in a single block. -/
theorem Tiles.countP_places
    {first stop : Nat}
    {bs : List Block}
    (hTiles : Tiles first bs stop)
    {i : Nat}
    (hFirst : first ≤ i)
    (hStop : i < stop) :
    bs.countP (fun b => i ∈ b.places) = 1 := by
  induction bs generalizing first with
  | nil =>
      have hSame : first = stop := hTiles
      omega
  | cons b bs ih =>
      rcases hTiles with ⟨m, rfl, hRest⟩
      have hPlace :
          i ∈ places ⟨first, m⟩ ↔ first ≤ i ∧ i < first + m :=
        List.mem_range'_1
      by_cases hHere : i < first + m
      · have hOthers :
            bs.countP (fun b => i ∈ b.places) = 0 := by
          rw [List.countP_eq_zero]
          intro b hB hIn
          have hLater := hRest.le_start_of_mem hB
          have hPlaces :=
            List.mem_range'_1.mp (of_decide_eq_true hIn)
          omega
        have hIn : i ∈ places ⟨first, m⟩ :=
          hPlace.mpr ⟨hFirst, hHere⟩
        rw [List.countP_cons, hOthers]
        simp only [hIn, decide_true, if_true]
      · have hOut : i ∉ places ⟨first, m⟩ := by
          intro hIn
          exact hHere (hPlace.mp hIn).2
        rw [List.countP_cons, ih hRest (Nat.le_of_not_lt hHere)]
        simp only [hOut, decide_false, Bool.false_eq_true,
          if_false]

/- One more block goes on from where a tiling ends. -/
theorem Tiles.concat
    {first stop : Nat}
    {bs : List Block}
    (hTiles : Tiles first bs stop)
    (m : Nat) :
    Tiles first (bs ++ [⟨stop, m⟩]) (stop + m) := by
  induction bs generalizing first with
  | nil =>
      have hSame : first = stop := hTiles
      rw [hSame]
      exact ⟨m, rfl, rfl⟩
  | cons b bs ih =>
      rcases hTiles with ⟨m', rfl, hRest⟩
      exact ⟨m', rfl, ih hRest⟩

/- The points of the blocks of a tiling, one after another. -/
theorem Tiles.flatMap_places
    {first stop : Nat}
    {bs : List Block}
    (hTiles : Tiles first bs stop) :
    bs.flatMap places = List.range' first (stop - first) := by
  induction bs generalizing first with
  | nil =>
      have hSame : first = stop := hTiles
      simp [hSame]
  | cons b bs ih =>
      rcases hTiles with ⟨m, rfl, hRest⟩
      have hLe := hRest.le
      have hLength : stop - first = m + (stop - (first + m)) := by
        omega
      rw [List.flatMap_cons, ih hRest, hLength]
      exact List.range'_append_1

end Block

end NeighbourInfo

------------------------------------------------------------
-- Even Divisions
------------------------------------------------------------

namespace NeighbourInfo

namespace Block

variable {α : Type}

/- Even blocks after the first one, which is longer. -/
theorem tiles_nth
    (size : Nat)
    (rest : Nat)
    (t : Nat) :
    Tiles 0 ((List.range (t + 1)).map (nth size rest))
      (size * (t + 1) + rest) := by
  induction t with
  | zero => exact ⟨size + rest, rfl, by simp [Tiles]⟩
  | succ t ih =>
      have hNext :
          nth size rest (t + 1) =
            ⟨(size * (t + 1) + rest : Nat), size⟩ := by
        simp [nth]
      have hTiles := ih.concat size
      rw [List.range_succ, List.map_append, List.map_singleton,
        hNext]
      have hStop :
          size * (t + 1 + 1) + rest =
            size * (t + 1) + rest + size := by
        rw [Nat.mul_succ]
        omega
      rw [hStop]
      exact hTiles

/- The division of natural numbers is one of them. -/
theorem split_natCast
    (n : Nat)
    (t : Nat) :
    split (α := α) n (t + 1 : Nat) =
      .ok
        ((List.range (t + 1)).map
          (nth (n / (t + 1) : Nat) (n % (t + 1) : Nat))) := by
  rw [split, if_neg (by omega), Int.ofNat_fdiv,
    Int.ofNat_fmod]
  rfl

/- Points are divided into blocks that tile them. -/
theorem tiles_split
    (n : Nat)
    {threads : Nat}
    (hSome : 1 ≤ threads) :
    ∃ bs,
      split (α := α) n threads = .ok bs ∧
        bs.length = threads ∧ Tiles 0 bs n := by
  rcases Nat.exists_eq_add_of_le' hSome with ⟨t, rfl⟩
  refine ⟨_, split_natCast n t, by simp, ?_⟩
  have hTiles := tiles_nth (n / (t + 1)) (n % (t + 1)) t
  have hTotal :
      n / (t + 1) * (t + 1) + n % (t + 1) = n :=
    Nat.div_add_mod' n (t + 1)
  rwa [hTotal] at hTiles

/- There is no other division that succeeds. -/
theorem tiles_of_split
    {n threads : Nat}
    {bs : List Block}
    (hOk : split (α := α) n threads = .ok bs) :
    bs.length = threads ∧ Tiles 0 bs n := by
  have hSome : 1 ≤ threads := by
    by_contra hNone
    have hFew : (threads : Int) < 1 := by omega
    rw [split, if_pos hFew] at hOk
    cases hOk
  rcases tiles_split (α := α) n hSome with
    ⟨blocks, hSplit, hLength, hTiles⟩
  rw [hSplit] at hOk
  cases hOk
  exact ⟨hLength, hTiles⟩

/- Where there are points the first block has some. -/
theorem exists_split_eq_cons
    {n threads : Nat}
    (hPoints : 1 ≤ n)
    (hSome : 1 ≤ threads) :
    ∃ m : Nat,
      1 ≤ m ∧ m ≤ n ∧
        ∃ bs,
          split (α := α) n threads = .ok (⟨0, m⟩ :: bs) := by
  rcases Nat.exists_eq_add_of_le' hSome with ⟨t, rfl⟩
  have hTotal := Nat.div_add_mod' n (t + 1)
  refine ⟨n / (t + 1) + n % (t + 1), ?_, ?_, ?_⟩
  · rcases Nat.eq_zero_or_pos (n / (t + 1)) with hSize | hSize
    · rw [hSize, Nat.zero_mul, Nat.zero_add] at hTotal
      rw [hSize, hTotal, Nat.zero_add]
      exact hPoints
    · exact Nat.le_trans hSize (Nat.le_add_right _ _)
  · calc
      n / (t + 1) + n % (t + 1)
        ≤ n / (t + 1) * (t + 1) + n % (t + 1) :=
          Nat.add_le_add_right
            (Nat.le_mul_of_pos_right _ (Nat.succ_pos t)) _
      _ = n := hTotal
  · rw [split_natCast, List.range_succ_eq_map, List.map_cons]
    exact ⟨_, rfl⟩

end Block

end NeighbourInfo

------------------------------------------------------------
-- Writing Blocks
------------------------------------------------------------

namespace NeighbourInfo

namespace Block

variable {β : Type}

private theorem length_write
    {start m : Nat}
    {values all : List β}
    (hLength : values.length = m)
    (hFits : start + m ≤ all.length) :
    (write ⟨start, m⟩ values all).length = all.length := by
  simp only [write, stop, List.length_append,
    List.length_take, List.length_drop]
  omega

/- Up to the end of a block its values are the last ones. -/
private theorem take_write
    {start m : Nat}
    {values all : List β}
    (hLength : values.length = m)
    (hFits : start + m ≤ all.length) :
    (write ⟨start, m⟩ values all).take (start + m) =
      all.take start ++ values := by
  have hTake : (all.take start).length = start := by
    rw [List.length_take]
    omega
  apply List.take_left'
  rw [List.length_append, hLength]
  simpa using hTake

/- What comes after a block is left alone. -/
private theorem drop_write
    {start m n : Nat}
    {values all : List β}
    (hLength : values.length = m)
    (hFits : start + m ≤ all.length)
    (hAfter : start + m ≤ n) :
    (write ⟨start, m⟩ values all).drop n = all.drop n := by
  have hTake : (all.take start).length = start := by
    rw [List.length_take]
    omega
  rcases Nat.exists_eq_add_of_le hAfter with ⟨rest, rfl⟩
  have hFront :
      (all.take start ++ values).length = start + m := by
    rw [List.length_append, hTake, hLength]
  have hStop : (stop ⟨start, m⟩).toNat = start + m := by
    simp only [stop]
    omega
  rw [write, hStop, ← List.drop_drop]
  change ((all.take start ++ values ++ _).drop _).drop _ = _
  rw [List.drop_left' hFront, List.drop_drop]

end Block

namespace Evaluation

variable {β : Type}

/-
  Values that are as many as the points of their blocks, which
  tile a range, take up the range in the order of the blocks.
-/
theorem assemble_of_tiles
    {first stop : Nat}
    {parts : List (Block × List β)}
    {empty : List β}
    (hTiles : Block.Tiles first (parts.map Prod.fst) stop)
    (hLengths :
      ∀ part ∈ parts, part.2.length = part.1.length.toNat)
    (hFits : stop ≤ empty.length) :
    assemble empty parts =
      empty.take first ++ parts.flatMap Prod.snd ++
        empty.drop stop := by
  induction parts generalizing first empty with
  | nil =>
      have hSame : first = stop := hTiles
      rw [hSame]
      simp [assemble]
  | cons part parts ih =>
      rcases part with ⟨b, values⟩
      rcases hTiles with ⟨m, hBlock, hRest⟩
      change b = _ at hBlock
      subst hBlock
      have hLength : values.length = m := by
        simpa using hLengths _ List.mem_cons_self
      have hLe : first + m ≤ stop := hRest.le
      have hWrite : first + m ≤ empty.length :=
        Nat.le_trans hLe hFits
      let written := Block.write ⟨first, m⟩ values empty
      have hRestFits : stop ≤ written.length := by
        rwa [Block.length_write hLength hWrite]
      calc
        assemble written parts
          = written.take (first + m) ++
              parts.flatMap Prod.snd ++ written.drop stop :=
            ih hRest
              (fun part hPart =>
                hLengths part (List.mem_cons_of_mem _ hPart))
              hRestFits
        _ = empty.take first ++
              (values ++ parts.flatMap Prod.snd) ++
              empty.drop stop := by
            rw [Block.take_write hLength hWrite,
              Block.drop_write hLength hWrite hLe,
              List.append_assoc (empty.take first)]

/- Together they are as many as the points of the tiling. -/
theorem length_of_tiles
    {first stop : Nat}
    {parts : List (Block × List β)}
    (hTiles : Block.Tiles first (parts.map Prod.fst) stop)
    (hLengths :
      ∀ part ∈ parts, part.2.length = part.1.length.toNat) :
    (parts.flatMap Prod.snd).length = stop - first := by
  have hPlaces :
      ∀ part ∈ parts, part.2.length = part.1.places.length := by
    intro part hPart
    rw [hLengths part hPart, Block.places, List.length_range']
  have hPoints := congrArg List.length hTiles.flatMap_places
  rw [List.length_range', List.flatMap_map,
    List.length_flatMap] at hPoints
  rw [List.length_flatMap, List.map_congr_left hPlaces]
  exact hPoints

/- In the order of the blocks each has its values in place. -/
theorem take_drop_of_tiles
    {first stop : Nat}
    {parts : List (Block × List β)}
    (hTiles : Block.Tiles first (parts.map Prod.fst) stop)
    (hLengths :
      ∀ part ∈ parts, part.2.length = part.1.length.toNat)
    {b : Block}
    {values : List β}
    (hPart : (b, values) ∈ parts) :
    ((parts.flatMap Prod.snd).drop
        (b.start.toNat - first)).take b.length.toNat =
      values := by
  induction parts generalizing first with
  | nil => cases hPart
  | cons part parts ih =>
      have hLength := hLengths part List.mem_cons_self
      rcases part with ⟨b', values'⟩
      rcases hTiles with ⟨m, hBlock, hRest⟩
      change b' = _ at hBlock
      rw [hBlock] at hPart hLength
      change values'.length = m at hLength
      rw [List.flatMap_cons]
      rcases List.mem_cons.mp hPart with hHere | hLater
      · cases hHere
        change ((values ++ _).drop (first - first)).take m = _
        rw [Nat.sub_self, List.drop_zero]
        exact List.take_left' hLength
      · have hFirst : first + m ≤ b.start.toNat :=
          hRest.le_start_of_mem
            (List.mem_map_of_mem (f := Prod.fst) hLater)
        have hDrop :
            b.start.toNat - first =
              values'.length +
                (b.start.toNat - (first + m)) := by
          omega
        rw [hDrop, List.drop_length_add_append]
        exact
          ih hRest
            (fun part hPart =>
              hLengths part (List.mem_cons_of_mem _ hPart))
            hLater

end Evaluation

end NeighbourInfo
