import NeighbourInfo.Block
import NeighbourInfo.Scalar.Quotient

/-
  Divisions of points into blocks, as a caller asks for them.

  Key definitions include:
    * `NeighbourInfo.Division`
    * `NeighbourInfo.Division.ofValues`

  Within the program both numbers are whole.  A caller may
  give a scalar for the number of points, and then the blocks
  begin and end at scalars as well.
-/

------------------------------------------------------------
-- Divisions
------------------------------------------------------------

namespace NeighbourInfo

/- Blocks of points, or of what a scalar was divided into. -/
inductive Division (α : Type) where
  | points (blocks : List Block)
  /- Where each part begins, and how long it is. -/
  | parts (parts : List (α × α))
deriving Inhabited

namespace Division

variable {α : Type} [Scalar α]

/- The part at one position of an even division. -/
def nth
    (size : α)
    (rest : α) :
    Nat → α × α
  | 0 => (0, size + rest)
  | b + 1 => (size * Scalar.ofNat (b + 1) + rest, size)

variable [Literal α]

/- Divide a scalar into parts as points into blocks. -/
def ofScalar
    (a : α)
    (blocks : Int) :
    Division α :=
  let size := Scalar.quotient a blocks
  let rest := Scalar.remainder a blocks
  .parts ((List.range blocks.toNat).map (nth size rest))

/- Check a number that is to be divided by a scalar. -/
def checkDividend :
    Value α → Except (Error α) Unit
  | .whole n => do
      let _ ← Value.scalarOfInt (α := α) n
  | .truth _ | .real _ => .ok ()
  | _ => .error .wrongKind

/-
  Divide points into blocks.  The number of blocks is compared
  and divided by before it is known to be whole.
-/
def ofValues
    (points : Value α)
    (blocks : Value α) :
    Except (Error α) (Division α) := do
  if ← blocks.isBelow 1 then throw .noBlocks
  if let .real _ := blocks then
    checkDividend points
  let count ← blocks.exactInt
  match points with
  | .real a =>
      let _ ← Value.scalarOfInt (α := α) count
      return ofScalar a count
  | points =>
      let points ← points.exactInt
      let split ← Block.split points count
      return .points split

/- Whole numbers are divided into blocks of points. -/
theorem ofValues_whole
    (points : Int)
    (blocks : Int) :
    ofValues (.whole points : Value α) (.whole blocks) =
      (Block.split points blocks).map .points := by
  by_cases hNone : blocks < 1
  · simp only [ofValues, Value.isBelow, Block.split, hNone,
      decide_true, if_true]
    rfl
  · simp only [ofValues, Value.isBelow, hNone, decide_false]
    change (do
      let split ← Block.split points blocks
      return Division.points split) = _
    rcases Block.split (α := α) points blocks with _ | _
    · rfl
    · rfl

end Division

end NeighbourInfo
