import NeighbourInfo.Value.Number

/-
  Blocks of consecutive points, one for each thread.

  Key definitions include:
    * `NeighbourInfo.Block`
    * `NeighbourInfo.Block.split`
    * `NeighbourInfo.Block.points`
    * `NeighbourInfo.Block.write`

  The points are divided evenly; the first block also takes
  the points that are left over.
-/

------------------------------------------------------------
-- Blocks
------------------------------------------------------------

namespace NeighbourInfo

/- The points from `start` on, `length` of them. -/
structure Block where
  start : Int
  length : Int
deriving DecidableEq, Repr, Inhabited

namespace Block

/- The point after the last one. -/
def stop
    (b : Block) :
    Int :=
  b.start + b.length

/- A block of no more points, the first ones of a block. -/
def upTo
    (limit : Nat)
    (b : Block) :
    Block :=
  { b with length := min b.length limit }

/- The numbers of the points, in order. -/
def points
    (b : Block) :
    List Int :=
  (List.range b.length.toNat).map fun (i : Nat) =>
    b.start + i

/- A block has as many points as it is long. -/
@[simp]
theorem length_points
    (b : Block) :
    b.points.length = b.length.toNat := by
  simp [points]

/- Put the values of a block at its place among all values. -/
def write
    {β : Type}
    (b : Block)
    (values : List β)
    (all : List β) :
    List β :=
  all.take b.start.toNat ++ values ++ all.drop b.stop.toNat

end Block

end NeighbourInfo

------------------------------------------------------------
-- Splitting
------------------------------------------------------------

namespace NeighbourInfo

namespace Block

/- The block at one position of an even division. -/
def nth
    (size : Int)
    (rest : Int) :
    Nat → Block
  | 0 => ⟨0, size + rest⟩
  | b + 1 => ⟨size * (b + 1) + rest, size⟩

/-
  Divide `points` points into blocks.  Quotient and remainder
  are those of division toward minus infinity.
-/
def split
    {α : Type}
    (points : Int)
    (blocks : Int) :
    Except (Error α) (List Block) :=
  if blocks < 1 then .error .noBlocks
  else
    let size := points.fdiv blocks
    let rest := points.fmod blocks
    .ok ((List.range blocks.toNat).map (nth size rest))

end Block

end NeighbourInfo
