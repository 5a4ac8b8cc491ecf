import NeighbourInfo.Tensor.Rows

/-
  Values of a measure on surrogates, beside its actual value.

  Key definitions include:
    * `NeighbourInfo.Distribution`
    * `NeighbourInfo.Distribution.pValue`
    * `NeighbourInfo.Distribution.tScore`
    * `NeighbourInfo.Distribution.describe`
-/

------------------------------------------------------------
-- Distributions
------------------------------------------------------------

namespace NeighbourInfo

/- The values on the surrogates, and the actual value. -/
structure Distribution (α : Type) where
  values : Tensor α
  actual : α
deriving DecidableEq, Repr, Inhabited

namespace Distribution

variable {α : Type}

/- The number of surrogates. -/
def size
    (d : Distribution α) :
    Nat :=
  d.values.entries.length

/- Read a distribution that a caller hands in. -/
def ofValues
    [Scalar α] [Literal α]
    (values : Value α)
    (actual : Value α) :
    Except (Error α) (Distribution α) := do
  let values ← Tensor.scalars values
  let actual ← actual.toScalar
  return ⟨values, actual⟩

end Distribution

end NeighbourInfo

------------------------------------------------------------
-- Statistics
------------------------------------------------------------

namespace NeighbourInfo

namespace Distribution

variable {α : Type} [Scalar α]

/- How many surrogates reach the actual value. -/
def reaching
    (d : Distribution α) :
    Nat :=
  d.values.entries.countP (Scalar.le d.actual)

/-
  The fraction of surrogates that reach the actual value.
  Without surrogates there is none.
-/
def pValue
    (d : Distribution α) :
    α :=
  if d.size = 0 then Scalar.nan
  else Scalar.ofNat d.reaching / Scalar.ofNat d.size

/- The mean of the surrogates. -/
def mean
    (d : Distribution α) :
    α :=
  Scalar.mean d.values.entries

/- The standard deviation of the surrogates. -/
def deviation
    (d : Distribution α) :
    α :=
  Scalar.deviation d.values.entries

/-
  How many standard deviations the actual value lies above
  the mean.  Where all surrogates are equal it is zero for
  their own value and infinite for any other.
-/
def tScore
    (d : Distribution α) :
    α :=
  if Scalar.eq d.deviation 0 then
    if Scalar.eq d.actual d.mean then 0 else Scalar.infinity
  else (d.actual - d.mean) / d.deviation

/- A distribution as it is shown to a reader. -/
def describe
    [Literal α]
    (d : Distribution α) :
    String :=
  "EmpiricalDistribution(actual=" ++
    Literal.fixedText 6 d.actual ++
    ", n_surrogates=" ++ toString d.size ++
    ", p_value=" ++ Literal.fixedText 4 d.pValue ++ ")"

end Distribution

end NeighbourInfo
