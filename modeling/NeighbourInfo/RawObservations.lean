import NeighbourInfo.Closing
import NeighbourInfo.Kernel
import NeighbourInfo.Selection
import NeighbourInfo.Tensor.Rows

/-
  Observations as the arrays that a caller hands in.

  Key definitions include:
    * `NeighbourInfo.RawObservations`
    * `NeighbourInfo.RawObservations.distancesAt`
    * `NeighbourInfo.RawObservations.marginal`
    * `NeighbourInfo.RawObservations.Task`
    * `NeighbourInfo.RawObservations.Task.locals`
    * `NeighbourInfo.RawObservations.Task.sums`

  An estimator keeps tables whose rows belong together, and
  its settings were checked when they were set.  Here neither
  the axes of the arrays nor their lengths are known, nor the
  kinds of the numbers beside them, and nothing is asked of
  any of them until a point is compared with the rows.
-/

------------------------------------------------------------
-- Arrays Of The Variables
------------------------------------------------------------

namespace NeighbourInfo

/- One array for each variable. -/
structure RawObservations (α : Type) where
  x : Tensor α
  y : Tensor α
  z : Tensor α
deriving DecidableEq, Repr, Inhabited

namespace RawObservations

variable {α : Type}

/- Read the arrays, that of `x` first. -/
def ofValues
    [Scalar α] [Literal α]
    (x : Value α)
    (y : Value α)
    (z : Value α) :
    Except (Error α) (RawObservations α) := do
  let x ← Tensor.scalars x
  let y ← Tensor.scalars y
  let z ← Tensor.scalars z
  return ⟨x, y, z⟩

/- The rows of an array; one without axes has none. -/
def tableOf
    (t : Tensor α) :
    Table α :=
  (Table.alongFirstAxis? t).getD ⟨0, []⟩

/- The rows of each of the arrays. -/
def tables
    (raw : RawObservations α) :
    Observations α :=
  ⟨tableOf raw.x, tableOf raw.y, tableOf raw.z⟩

end RawObservations

end NeighbourInfo

------------------------------------------------------------
-- Distances
------------------------------------------------------------

namespace NeighbourInfo

namespace RawObservations

variable {α : Type} [Scalar α]

/-
  The distances from what a value selects to all rows.  The
  entries selected are the coordinates of one point.
-/
def distancesFrom
    (norm : Norm)
    (point : Value α)
    (t : Tensor α) :
    Except (Error α) (List α) := do
  let selection ← Selection.ofValue point
  let centre ← t.select selection
  t.distances norm (.ofList centre)

/-
  The distances from what a value selects in each variable.
  The rows of `x` are counted first, so it needs an axis.
-/
def distancesAt
    (norm : Norm)
    (point : Value α)
    (raw : RawObservations α) :
    Except (Error α) (Distances α) := do
  let _ ← raw.x.rowTable
  let x ← distancesFrom norm point raw.x
  let y ← distancesFrom norm point raw.y
  let z ← distancesFrom norm point raw.z
  return ⟨x, y, z⟩

/-
  The distances of a point in each variable, and which of the
  rows of `x` are admitted to it.
-/
def marginal
    (norm : Norm)
    (point : Value α)
    (window : Value α)
    (raw : RawObservations α) :
    Except (Error α) (Distances α × List Bool) := do
  let d ← raw.distancesAt norm point
  let i ← point.exactInt
  let window ← window.exactInt
  return (d, Window.admitted window i d.x.length)

end RawObservations

end NeighbourInfo

------------------------------------------------------------
-- Tasks
------------------------------------------------------------

namespace NeighbourInfo

namespace RawObservations

/- How to count the neighbours of which points. -/
structure Task (α : Type) where
  algorithm : Algorithm
  norm : Norm
  k : Value α
  window : Value α
  start : Value α
  points : Value α
deriving Inhabited

namespace Task

variable {α : Type} [Scalar α]

/-
  The points of a task.  There has to be room for a value of
  each of them, and an array of numbers is no number.
-/
def block
    (room : Int)
    (task : Task α) :
    Except (Error α) Block := do
  let lengths ← Tensor.readLengths task.points
  Tensor.checkSizes room lengths
  let points ← task.points.exactInt
  let start ← task.start.exactInt
  return ⟨start, points⟩

/-
  Have a kernel count the points of a block, of which there is
  at least one; the arrays are checked at the first of them.
  Rows are numbered from either end of `x`, so that among one
  point more than twice its rows there is one that is no row;
  no later point is looked at.
-/
def run
    {β : Type}
    (task : Task α)
    (raw : RawObservations α)
    (b : Block)
    (count :
      Config α → Observations α → Block →
        Except (Error α) β) :
    Except (Error α) β := do
  let _ ← raw.distancesAt task.norm (.whole b.start)
  let window ← task.window.exactInt
  let data := raw.tables
  let search : Search α := ⟨task.k, task.norm, window⟩
  count ⟨task.algorithm, search, .count 1, false⟩ data
    (b.upTo (2 * data.size + 1))

/-
  The local values of no points.  The numbers of neighbours
  may be an array, whose last axis then has no length.
-/
def localsOfNone
    (task : Task α) :
    Except (Error α) (Tensor α) := do
  let neighbours ← Closing.readNeighbours task.k
  Closing.checkTerms task.algorithm task.k neighbours [0]
  return ⟨neighbours.shape.dropLast ++ [0], []⟩

/- The local values of the points of a task. -/
def locals
    (room : Int)
    (task : Task α)
    (raw : RawObservations α) :
    Except (Error α) (Tensor α) := do
  let b ← task.block room
  if b.length = 0 then task.localsOfNone
  else
    let values ← task.run raw b Kernel.counting.locals
    return .ofList values

/- The sums over the points of a task. -/
def sums
    (room : Int)
    (task : Task α)
    (raw : RawObservations α) :
    Except (Error α) (Sums α) := do
  let b ← task.block room
  if b.length = 0 then return Sums.zero
  task.run raw b Kernel.counting.sums

end Task

end RawObservations

end NeighbourInfo
