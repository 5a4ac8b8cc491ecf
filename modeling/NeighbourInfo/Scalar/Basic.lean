/-
  Scalars, the numbers that observations are made of.

  Key definitions include:
    * `NeighbourInfo.Scalar`
    * `NeighbourInfo.Scalar.isNaN`
    * `NeighbourInfo.Scalar.larger`
    * `NeighbourInfo.Scalar.before`
    * `NeighbourInfo.Scalar.mean`
    * `NeighbourInfo.Scalar.deviation`

  Every estimate is written once, over any type with these
  operations.  The program runs it on doubles; its laws can be
  stated over exact numbers as well, with any function in the
  place of `digamma`.
-/

------------------------------------------------------------
-- Operations
------------------------------------------------------------

namespace NeighbourInfo

/-
  The operations an estimate is computed with.  `lt` and `eq`
  are comparisons of values, so a number that is not equal to
  itself is no number at all.  `nan` stands for a value that
  does not exist and `infinity` for one that is unbounded.
-/
class Scalar (α : Type)
    extends Zero α, Add α, Sub α, Mul α, Div α where
  ofInt : Int → α
  lt : α → α → Bool
  eq : α → α → Bool
  sqrt : α → α
  digamma : α → α
  infinity : α
  nan : α

namespace Scalar

variable {α : Type} [Scalar α]

/- A natural number as a scalar. -/
def ofNat
    (n : Nat) :
    α :=
  ofInt n

/- The comparison that allows equality. -/
def le
    (a : α)
    (b : α) :
    Bool :=
  lt a b || eq a b

/- The value is no number. -/
def isNaN
    (a : α) :
    Bool :=
  !eq a a

/- The value is a number and not an infinity. -/
def isFinite
    (a : α) :
    Bool :=
  eq (a - a) 0

/-
  The value has a minus sign, a negative zero included: one
  divided by it is below zero even where it is not.
-/
def isNegative
    (a : α) :
    Bool :=
  lt a 0 || (eq a 0 && lt (ofNat 1 / a) 0)

/- The distance of a value from zero. -/
def abs
    (a : α) :
    α :=
  if lt a 0 then 0 - a else a

end Scalar

end NeighbourInfo

------------------------------------------------------------
-- Order
------------------------------------------------------------

namespace NeighbourInfo

namespace Scalar

variable {α : Type} [Scalar α]

/- The larger of two values; no number wins over any. -/
def larger
    (a : α)
    (b : α) :
    α :=
  if isNaN a then a
  else if isNaN b then b
  else if lt a b then b
  else a

/- The largest of some values, zero if there is none. -/
def largest :
    List α → α
  | [] => 0
  | a :: as => as.foldl larger a

/- A value ranks before another; no number ranks last. -/
def before
    (a : α)
    (b : α) :
    Bool :=
  lt a b || (!isNaN a && isNaN b)

end Scalar

end NeighbourInfo

------------------------------------------------------------
-- Sums And Means
------------------------------------------------------------

namespace NeighbourInfo

namespace Scalar

variable {α : Type} [Scalar α]

/- The sum of a list, from left to right. -/
def sum
    (as : List α) :
    α :=
  as.foldl (· + ·) 0

/- The sum of nothing is zero. -/
@[simp]
theorem sum_nil :
    sum ([] : List α) = 0 := rfl

/- The arithmetic mean. -/
def mean
    (as : List α) :
    α :=
  sum as / ofNat as.length

/- The population standard deviation. -/
def deviation
    (as : List α) :
    α :=
  let centre := mean as
  sqrt (mean (as.map fun a => (a - centre) * (a - centre)))

end Scalar

end NeighbourInfo
