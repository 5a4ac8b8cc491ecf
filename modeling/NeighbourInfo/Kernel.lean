import NeighbourInfo.Settings
import NeighbourInfo.Report

/-
  Kernels, which do the counting for a block of points.

  Key definitions include:
    * `NeighbourInfo.Config`
    * `NeighbourInfo.Kernel`
    * `NeighbourInfo.Kernel.counting`
    * `NeighbourInfo.Kernel.failingFrom`

  A kernel sees the observations and the settings as they were
  when the computation began, and nothing else.
-/

------------------------------------------------------------
-- Settings Of A Computation
------------------------------------------------------------

namespace NeighbourInfo

/- The settings that a computation starts with and keeps. -/
structure Config (α : Type) where
  algorithm : Algorithm
  search : Search α
  threads : ThreadCount
  debug : Bool
deriving Inhabited

end NeighbourInfo

------------------------------------------------------------
-- Kernels
------------------------------------------------------------

namespace NeighbourInfo

/-
  What a block of points contributes: the local values of its
  points, or the sums over them.
-/
structure Kernel (α : Type) where
  locals :
    Config α → Observations α → Block →
      Except (Error α) (List α)
  sums :
    Config α → Observations α → Block →
      Except (Error α) (Sums α)

namespace Kernel

variable {α : Type} [Scalar α]

/-
  The counts of the points of a block, whose length is not
  negative.  The first point that is refused is the one
  reported.
-/
def blockCounts
    (config : Config α)
    (data : Observations α)
    (b : Block) :
    Except (Error α) (List Counts) :=
  if b.length < 0 then .error .negativeSize
  else
    b.points.mapM
      (data.countsAt config.algorithm config.search)

/-
  The number of neighbours, for which the formula of a local
  value has to be defined.
-/
def neighbours
    (config : Config α) :
    Except (Error α) α := do
  let k ← config.search.k.toArgument
  config.algorithm.checkDivisor (config.search.k.equalsInt 0)
  return k

/- The kernel that counts neighbours. -/
def counting :
    Kernel α where
  locals config data b := do
    let counts ← blockCounts config data b
    let k ← neighbours config
    return counts.map (Counts.localValue config.algorithm k)
  sums config data b := do
    let counts ← blockCounts config data b
    return Sums.ofCounts config.algorithm counts

/- The kernel of a method that has none of its own. -/
def missing :
    Kernel α where
  locals _ _ _ := .error .notImplemented
  sums _ _ _ := .error .notImplemented

/- A kernel that fails on blocks from a given point on. -/
def failingFrom
    (start : Int)
    (kernel : Kernel α) :
    Kernel α where
  locals config data b :=
    if start ≤ b.start then .error (.blockFailed b.start)
    else kernel.locals config data b
  sums config data b :=
    if start ≤ b.start then .error (.blockFailed b.start)
    else kernel.sums config data b

end Kernel

end NeighbourInfo
