import NeighbourInfo.Scalar.Literal

/-
  Division of scalars toward minus infinity by whole numbers.

  Key definitions include:
    * `NeighbourInfo.Scalar.floor`
    * `NeighbourInfo.Scalar.remainder`
    * `NeighbourInfo.Scalar.quotient`

  The divisor is positive.  The remainder is exact wherever it
  can be; the quotient is computed with it and then rounded to
  a whole value.  Both are no numbers if the dividend is not
  finite.
-/

------------------------------------------------------------
-- Whole Parts
------------------------------------------------------------

namespace NeighbourInfo

namespace Scalar

variable {α : Type} [Scalar α] [Literal α]

/- The greatest whole value that is not above a value. -/
def floor
    (a : α) :
    α :=
  match Literal.truncate? a with
  | some n =>
      let whole : α := ofInt n
      if lt a whole then whole - ofInt 1 else whole
  | none => nan

end Scalar

end NeighbourInfo

------------------------------------------------------------
-- Quotients And Remainders
------------------------------------------------------------

namespace NeighbourInfo

namespace Scalar

variable {α : Type} [Scalar α] [Literal α]

/-
  What a division toward zero by a whole number leaves over,
  which has the sign of the value that is divided.
-/
def leftOver
    (a : α)
    (divisor : Int) :
    α :=
  match Literal.truncate? a with
  | some n => ofInt (n.tmod divisor) + (a - ofInt n)
  | none => nan

/- The remainder by a positive number, which is not below 0. -/
def remainder
    (a : α)
    (divisor : Int) :
    α :=
  let rest := leftOver a divisor
  if lt rest 0 then rest + ofInt divisor else rest

/-
  The quotient that goes with the remainder.  It is computed
  with rounding, so that the nearest whole value is taken.
-/
def quotient
    (a : α)
    (divisor : Int) :
    α :=
  let rest := leftOver a divisor
  let steps := (a - rest) / ofInt divisor
  let steps := if lt rest 0 then steps - ofInt 1 else steps
  let below := floor steps
  if lt (ofInt 1 / ofInt 2) (steps - below) then
    below + ofInt 1
  else below

end Scalar

end NeighbourInfo
