import NeighbourInfo.Decimal.Round

/-
  Decimal numbers and their digits.

  Key definitions include:
    * `NeighbourInfo.Decimal`
    * `NeighbourInfo.Decimal.atScale`
    * `NeighbourInfo.Decimal.magnitude`
    * `NeighbourInfo.Decimal.significant`

  A positive number is handed over as a quotient of natural
  numbers, so every digit here is computed exactly.
-/

------------------------------------------------------------
-- Decimal Numbers
------------------------------------------------------------

namespace NeighbourInfo

/- The number `digits * 10 ^ scale`, with a sign. -/
structure Decimal where
  negative : Bool
  digits : Nat
  scale : Int
deriving DecidableEq, Repr, Inhabited

namespace Decimal

/- The size of a decimal number as a quotient. -/
def ratio
    (d : Decimal) :
    Nat × Nat :=
  if 0 ≤ d.scale then
    (d.digits * Nat.pow 10 d.scale.toNat, 1)
  else (d.digits, Nat.pow 10 (-d.scale).toNat)

/- The quotient `num / den` divided by a power of ten. -/
def shiftDown
    (num : Nat)
    (den : Nat)
    (scale : Int) :
    Nat × Nat :=
  if 0 ≤ scale then (num, den * Nat.pow 10 scale.toNat)
  else (num * Nat.pow 10 (-scale).toNat, den)

/- The number nearest to `num / den` at the given scale. -/
def atScale
    (negative : Bool)
    (num : Nat)
    (den : Nat)
    (scale : Int) :
    Decimal :=
  let shifted := shiftDown num den scale
  ⟨negative, roundQuotient shifted.1 shifted.2, scale⟩

end Decimal

end NeighbourInfo

------------------------------------------------------------
-- Orders Of Magnitude
------------------------------------------------------------

namespace NeighbourInfo

namespace Decimal

/- The decimal digits of a natural number. -/
def digitsOf
    (n : Nat) :
    List Char :=
  Nat.toDigits 10 n

/- The quotient `num / den` is at least one at this scale. -/
def reaches
    (num : Nat)
    (den : Nat)
    (scale : Int) :
    Bool :=
  let shifted := shiftDown num den scale
  shifted.2 ≤ shifted.1

/-
  The largest power of ten not above a positive quotient.
  The lengths of the two numbers leave one power or the one
  below it.
-/
def magnitude
    (num : Nat)
    (den : Nat) :
    Int :=
  let guess :=
    ((digitsOf num).length : Int) - (digitsOf den).length
  if reaches num den guess then guess else guess - 1

/-
  The number nearest to `num / den` among those of `count`
  significant digits.  Zero has no leading digit and stays.
-/
def significant
    (count : Nat)
    (negative : Bool)
    (num : Nat)
    (den : Nat) :
    Decimal :=
  if num = 0 then ⟨negative, 0, 0⟩
  else
    atScale negative num den (magnitude num den - count + 1)

end Decimal

end NeighbourInfo
