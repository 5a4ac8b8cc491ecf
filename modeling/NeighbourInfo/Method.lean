import NeighbourInfo.Evaluation

/-
  Methods of estimation.

  Key definitions include:
    * `NeighbourInfo.Method`
    * `NeighbourInfo.Method.counting`

  A method is an algorithm and the kernel that counts for it.
  A method may still lack either of them: without an algorithm
  or a kernel it keeps observations, but computes nothing.
-/

------------------------------------------------------------
-- Methods
------------------------------------------------------------

namespace NeighbourInfo

/- What an estimate is computed with. -/
structure Method (α : Type) where
  algorithm : Option Algorithm
  kernel : Kernel α

namespace Method

variable {α : Type} [Scalar α]

/- Count neighbours for one of the algorithms. -/
def counting
    (algorithm : Algorithm) :
    Method α :=
  ⟨some algorithm, .counting⟩

/- A method whose algorithm is not decided. -/
def undecided :
    Method α :=
  ⟨none, .missing⟩

/- An algorithm without a kernel. -/
def withoutKernel
    (algorithm : Algorithm) :
    Method α :=
  ⟨some algorithm, .missing⟩

/- A method that fails on blocks from a given point on. -/
def failingFrom
    (start : Int)
    (algorithm : Algorithm) :
    Method α :=
  ⟨some algorithm, .failingFrom start .counting⟩

end Method

end NeighbourInfo

------------------------------------------------------------
-- Computing
------------------------------------------------------------

namespace NeighbourInfo

namespace Method

variable {α : Type} [Scalar α]

/- The settings as they are when a computation begins. -/
def config
    (method : Method α)
    (settings : Settings α) :
    Except (Error α) (Config α) :=
  match method.algorithm with
  | some algorithm =>
      .ok ⟨algorithm, settings.search, settings.threads,
        settings.debug⟩
  | none => .error .noAlgorithm

/- The average information over all observations. -/
def average
    (method : Method α)
    (settings : Settings α)
    (data : Observations α) :
    Report α (Computation α × α) := do
  let config ← Report.ofExcept (method.config settings)
  Evaluation.average method.kernel config data

/- The local values of all observations. -/
def locals
    (method : Method α)
    (settings : Settings α)
    (data : Observations α) :
    Report α (Computation α × List α) := do
  let config ← Report.ofExcept (method.config settings)
  Evaluation.locals method.kernel config data

end Method

end NeighbourInfo
