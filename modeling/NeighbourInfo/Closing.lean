import NeighbourInfo.Report
import NeighbourInfo.Table.Basic

/-
  The closing formula for sums that a caller hands in.

  Key definitions include:
    * `NeighbourInfo.Closing.average`

  Within the program the sums are complete and `k` is a whole
  number.  Here neither is known beforehand, and either may be
  an array of any shape, so each part is checked when the
  formula comes to use it.
-/

------------------------------------------------------------
-- Parts Of The Sums
------------------------------------------------------------

namespace NeighbourInfo

namespace Closing

variable {α : Type} [Scalar α]

/- The given sums have a part at each of the positions. -/
def checkParts
    (sums : Table α)
    (positions : List Nat) :
    Except (Error α) Unit :=
  match positions.find? fun i => sums.size ≤ i with
  | some i => .error (.outOfBounds i sums.size)
  | none => .ok ()

/- The means that the given sums make, with zeros missing. -/
def meansOf
    (sums : Table α)
    (points : α) :
    Sums α :=
  let part (i : Nat) := (sums.rows.getD i []).getD 0 0 / points
  ⟨part 0, part 1, part 2, part 3, part 4, part 5⟩

/-
  The number of neighbours, or an array of several of them,
  for which the formula has no single value.
-/
def readNeighbours
    (k : Value α) :
    Except (Error α) (Tensor α) :=
  Tensor.ofValue Value.toArgument k

/-
  The terms of the formula can be added up.  The second one
  divides by the number of neighbours before it does so.
-/
def checkTerms
    (algorithm : Algorithm)
    (k : Value α)
    (neighbours : Tensor α)
    (digammas : List Nat) :
    Except (Error α) Unit :=
  match algorithm with
  | .first =>
      if Tensor.goTogether neighbours.shape digammas then
        .ok ()
      else
        .error (.unequalShapes neighbours.shape digammas)
  | .second =>
      if neighbours.axes = 0 then
        algorithm.checkDivisor (k.equalsInt 0)
      else .error .wrongKind

/- The formula has a single value. -/
def checkSingle
    (neighbours : Tensor α)
    (isFlat : Bool) :
    Except (Error α) Unit :=
  if isFlat && neighbours.axes == 0 then .ok ()
  else .error .wrongKind

end Closing

end NeighbourInfo

------------------------------------------------------------
-- Average
------------------------------------------------------------

namespace NeighbourInfo

namespace Closing

variable {α : Type} [Scalar α] [Literal α]

/- Announce the mean counts; each has to be a single value. -/
def announceCounts
    (sums : Table α)
    (isFlat : Bool)
    (means : Sums α) :
    Report α Unit := do
  Report.ofExcept (checkParts sums [1])
  if !isFlat then Report.ofExcept (.error .wrongKind)
  Report.ofExcept (checkParts sums [2, 3])
  Report.note (.meanCounts means)

/- The parts that only one algorithm needs. -/
def lastParts :
    Algorithm → List Nat
  | .first => []
  | .second => [4, 5]

/- The average information, from sums over some points. -/
def average
    (sums : Value α)
    (points : Value α)
    (k : Value α)
    (algorithm : Value α)
    (debug : Bool) :
    Report α α := do
  let t ← Report.ofExcept (Tensor.scalars sums)
  let points ← Report.ofExcept points.toScalar
  let table ←
    Report.ofExcept
      (match Table.alongFirstAxis? t with
      | some table => .ok table
      | none => .error .noEntries)
  Report.ofExcept (checkParts table [0])
  let neighbours ← Report.ofExcept (readNeighbours k)
  let means := meansOf table points
  let isFlat := decide (t.axes = 1)
  if debug then announceCounts table isFlat means
  match Algorithm.ofValue? algorithm with
  | none => Report.ofExcept (.error (.wrongAlgorithm algorithm))
  | some algorithm =>
      Report.ofExcept (checkParts table (lastParts algorithm))
      Report.ofExcept
        (checkTerms algorithm k neighbours (t.shape.drop 1))
      Report.ofExcept (checkSingle neighbours isFlat)
      let k := neighbours.entries.getD 0 0
      let value := means.average algorithm k
      Report.noteWhen debug [.closing algorithm k means value]
      return value

end Closing

end NeighbourInfo
