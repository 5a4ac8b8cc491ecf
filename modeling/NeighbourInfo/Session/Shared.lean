import NeighbourInfo.Estimator.Adding
import NeighbourInfo.Transition

/-
  What the estimators of a session share.

  Key definitions include:
    * `NeighbourInfo.Shared`
    * `NeighbourInfo.Shared.newSettings`
    * `NeighbourInfo.Shared.chooseThreads`
    * `NeighbourInfo.Shared.showSummary`
-/

------------------------------------------------------------
-- Shared State
------------------------------------------------------------

namespace NeighbourInfo

/-
  The number of processors, the defaults of new estimators,
  the supply of chance, and the last computation of all.
-/
structure Shared (α : Type) where
  processors : Nat
  defaultK : Value α
  threads : ThreadDefault
  chance : Chance α
  summary : Summary α
deriving Inhabited

namespace Shared

variable {α : Type}

/-
  The state in which a session begins.  At least one processor
  is counted, even where none is known.
-/
def initial
    [Scalar α]
    (processors : Option Nat)
    (chance : Chance α) :
    Shared α :=
  ⟨max 1 (processors.getD 1), .whole 4, .automatic, chance,
    .initial⟩

/- The number of threads of a new estimator. -/
def threadCount
    (s : Shared α) :
    ThreadCount :=
  s.threads.threads s.processors

/- The settings of a new estimator. -/
def newSettings
    (s : Shared α) :
    Settings α :=
  .initial s.defaultK s.threadCount

end Shared

end NeighbourInfo

------------------------------------------------------------
-- Threads
------------------------------------------------------------

namespace NeighbourInfo

namespace Shared

variable {α : Type}

/- The announcements about the default of the threads. -/
def threadNotes
    (s : Shared α) :
    List (Note α) :=
  .usedThreads s.threadCount s.processors ::
    match s.threads with
    | .automatic => [.automaticThreads s.processors]
    | _ => []

/-
  Choose the default of the threads, or have the present one
  shown.
-/
def chooseThreads
    [Scalar α]
    (choice : Value α)
    (processors : Value α) :
    Transition (Shared α) α Unit := do
  match
    ← Transition.ofExcept
      (ThreadDefault.choose choice processors) with
  | some threads =>
      Transition.modify fun s => { s with threads := threads }
  | none =>
      let s ← Transition.current
      Transition.noteWhen true s.threadNotes

end Shared

end NeighbourInfo

------------------------------------------------------------
-- Last Computation
------------------------------------------------------------

namespace NeighbourInfo

namespace Shared

variable {α : Type} [Scalar α]

/- Record a computation. -/
def record
    (c : Computation α) :
    Transition (Shared α) α Unit :=
  Transition.modify fun s =>
    { s with summary := s.summary.record c }

/- Give the last computation, and show it if asked to. -/
def showSummary
    (verbosity : Value α) :
    Transition (Shared α) α (Summary α) := do
  let isShown ← Transition.ofExcept (verbosity.isAbove 0)
  let s ← Transition.current
  Transition.noteWhen isShown [.lastComputation s.summary]
  return s.summary

end Shared

end NeighbourInfo

------------------------------------------------------------
-- Permutations
------------------------------------------------------------

namespace NeighbourInfo

namespace Shared

variable {α : Type}

/- Draw permutations from the supply of chance. -/
def drawPermutations
    (n : Nat)
    (count : Int) :
    Transition (Shared α) α (List (List Int)) :=
  Transition.change fun s =>
    (s.chance.permutations? n count).map
      fun (permutations, chance) =>
        (permutations, { s with chance := chance })

end Shared

end NeighbourInfo
