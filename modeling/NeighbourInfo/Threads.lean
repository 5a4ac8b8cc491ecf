import NeighbourInfo.Value.Number

/-
  Numbers of threads.

  Key definitions include:
    * `NeighbourInfo.ThreadCount`
    * `NeighbourInfo.ThreadCount.ofValue`
    * `NeighbourInfo.ThreadDefault`
    * `NeighbourInfo.ThreadDefault.choose`

  The threads only decide the blocks that the points are
  divided into.
-/

------------------------------------------------------------
-- Counts Of Threads
------------------------------------------------------------

namespace NeighbourInfo

/-
  A number of threads.  A truth value may be given instead of
  the number one, and is then shown as that word.
-/
inductive ThreadCount where
  | count (n : Nat)
  | truth
deriving DecidableEq, Repr, Inhabited

namespace ThreadCount

/- The number of threads. -/
def toNat :
    ThreadCount → Nat
  | .count n => n
  | .truth => 1

/- The number as it is shown. -/
def text :
    ThreadCount → String
  | .count n => toString n
  | .truth => "True"

/- The word that asks for all processors. -/
def allWord :
    String :=
  "USE_ALL"

/-
  Read a number of threads: at least one, or the word for all
  processors.
-/
def ofValue
    {α : Type} [Scalar α] [Literal α]
    (processors : Nat)
    (v : Value α) :
    Except (Error α) Nat := do
  if let .text s := v then
    if Text.upper (Text.strip s) = allWord then
      return processors
  let n ← v.toInt
  if n < 1 then throw (.smallThreads n)
  return n.toNat

end ThreadCount

end NeighbourInfo

------------------------------------------------------------
-- Default Of New Estimators
------------------------------------------------------------

namespace NeighbourInfo

/- How many threads a new estimator starts with. -/
inductive ThreadDefault where
  /- As many as there are processors. -/
  | automatic
  | single
  | fixed (threads : ThreadCount)
deriving DecidableEq, Repr, Inhabited

namespace ThreadDefault

/- The number of threads on a machine. -/
def threads
    (processors : Nat) :
    ThreadDefault → ThreadCount
  | .automatic => .count processors
  | .single => .count 1
  | .fixed threads => threads

/- Threads are used at all. -/
def isParallel :
    ThreadDefault → Bool
  | .single => false
  | _ => true

/-
  What a caller asks for.  `none` asks for the present default
  to be shown.  A positive number of processors takes the
  place of the choice.
-/
def choose
    {α : Type} [Scalar α]
    (choice : Value α)
    (processors : Value α) :
    Except (Error α) (Option ThreadDefault) := do
  let isGiven ← processors.isAbove 0
  match if isGiven then processors else choice with
  | .text "info" => return none
  | .text "auto" => return some .automatic
  | .text "single" => return some .single
  | .truth true => return some (.fixed .truth)
  | .whole n =>
      if 0 < n then return some (.fixed (.count n.toNat))
      else throw .wrongThreads
  | _ => throw .wrongThreads

end ThreadDefault

end NeighbourInfo
