import NeighbourInfo.Kernel

/-
  Evaluations over all points, block by block.

  Key definitions include:
    * `NeighbourInfo.Evaluation.overBlocks`
    * `NeighbourInfo.Evaluation.assemble`
    * `NeighbourInfo.Evaluation.average`
    * `NeighbourInfo.Evaluation.locals`

  Blocks do not depend on each other, so they may be computed
  in any order.  Their contributions are merged in the order
  of the blocks, and of several failures the one of the first
  block counts.  A single thread has nothing to merge.
-/

------------------------------------------------------------
-- Blocks
------------------------------------------------------------

namespace NeighbourInfo

namespace Evaluation

variable {α β : Type}

/- The announcement of the blocks of several threads. -/
def divisionNotes
    (config : Config α)
    (points : Nat)
    (blocks : List Block) :
    List (Note α) :=
  let threads := config.threads.toNat
  .division config.threads ((points : Int).fdiv threads)
      ((points : Int).fmod threads) ::
    blocks.mapIdx fun number block => .thread number block

/- The points are fewer than twice the neighbours asked for. -/
def areFew
    [Scalar α]
    (points : Nat) :
    Value α → Except (Error α) Bool
  | .truth b => .ok ((points : Int) < 2 * Value.bit b)
  | .whole k => .ok ((points : Int) < 2 * k)
  | .real a => .ok (Scalar.lt (Scalar.ofNat points) (a + a))
  | _ => .error .wrongKind

/-
  What all points contribute.  A single thread computes them
  at once; of several threads each computes a block, and then
  the contributions of the blocks are merged.
-/
def overBlocks
    [Scalar α]
    (config : Config α)
    (points : Nat)
    (contribute : Block → Except (Error α) β)
    (merge : List (Block × β) → β) :
    Report α (List Block × β) := do
  let k := config.search.k
  let isWarned ← Report.ofExcept (areFew points k)
  Report.noteWhen isWarned [.fewPoints points k]
  let threads := config.threads.toNat
  if threads = 1 then
    let whole : Block := ⟨0, points⟩
    let contribution ← Report.ofExcept (contribute whole)
    return ([whole], contribution)
  else
    let blocks ← Report.ofExcept (Block.split points threads)
    Report.noteWhen config.debug
      (divisionNotes config points blocks)
    let parts ← Report.ofExcept (blocks.mapM contribute)
    return (blocks, merge (blocks.zip parts))

end Evaluation

end NeighbourInfo

------------------------------------------------------------
-- Averages And Local Values
------------------------------------------------------------

namespace NeighbourInfo

namespace Evaluation

variable {α : Type} [Scalar α]

/- The average information over all observations. -/
def average
    (kernel : Kernel α)
    (config : Config α)
    (data : Observations α) :
    Report α (Computation α × α) := do
  let points := data.size
  let (blocks, sums) ←
    overBlocks config points (kernel.sums config data)
      fun parts => Sums.total (parts.map Prod.snd)
  let means := sums.dividedBy (Scalar.ofNat points)
  let k ← Report.ofExcept config.search.k.toArgument
  let value := means.average config.algorithm k
  Report.noteWhen config.debug
    [.meanCounts means,
      .closing config.algorithm k means value]
  return (⟨points, config.threads, blocks, some means⟩, value)

/- Fill a list with the values of blocks, at their places. -/
def assemble
    {β : Type}
    (empty : List β)
    (parts : List (Block × List β)) :
    List β :=
  parts.foldl (fun all part => part.1.write part.2 all) empty

/- The local values of all observations, in their order. -/
def locals
    (kernel : Kernel α)
    (config : Config α)
    (data : Observations α) :
    Report α (Computation α × List α) := do
  let points := data.size
  let (blocks, values) ←
    overBlocks config points (kernel.locals config data)
      (assemble (List.replicate points Scalar.nan))
  return (⟨points, config.threads, blocks, none⟩, values)

end Evaluation

end NeighbourInfo
