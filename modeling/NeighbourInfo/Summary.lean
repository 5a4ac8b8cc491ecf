import NeighbourInfo.Block
import NeighbourInfo.Sums
import NeighbourInfo.Threads

/-
  The record of the last computation.

  Key definitions include:
    * `NeighbourInfo.Computation`
    * `NeighbourInfo.Summary`
    * `NeighbourInfo.Summary.record`
-/

------------------------------------------------------------
-- Computations
------------------------------------------------------------

namespace NeighbourInfo

/-
  What a finished computation leaves to be recorded.  Local
  values come without mean counts.
-/
structure Computation (α : Type) where
  points : Nat
  threads : ThreadCount
  blocks : List Block
  means : Option (Sums α)
deriving DecidableEq, Repr, Inhabited

end NeighbourInfo

------------------------------------------------------------
-- Summaries
------------------------------------------------------------

namespace NeighbourInfo

/- The last computation, as far as it is known. -/
structure Summary (α : Type) where
  points : Nat
  threads : ThreadCount
  blocks : List Block
  meanXZ : α
  meanYZ : α
  meanZ : α
deriving DecidableEq, Repr, Inhabited

namespace Summary

variable {α : Type} [Scalar α]

/- Before any computation. -/
def initial :
    Summary α :=
  ⟨0, .count 0, [], 0, 0, 0⟩

/-
  Record a computation.  Where it has no mean counts, those of
  the last computation with means stay.
-/
def record
    (s : Summary α)
    (c : Computation α) :
    Summary α :=
  match c.means with
  | some means =>
      ⟨c.points, c.threads, c.blocks, means.xz, means.yz,
        means.z⟩
  | none =>
      { s with
        points := c.points
        threads := c.threads
        blocks := c.blocks }

end Summary

end NeighbourInfo
