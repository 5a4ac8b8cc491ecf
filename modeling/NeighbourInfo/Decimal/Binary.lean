import NeighbourInfo.Decimal.Basic

/-
  The values of double-precision numbers.

  Key definitions include:
    * `NeighbourInfo.Binary`
    * `NeighbourInfo.Binary.ofBits`
    * `NeighbourInfo.Binary.nearestBits`

  A finite double is a whole significand times a power of two,
  so it is a quotient of natural numbers and its decimal
  digits can be computed exactly.
-/

------------------------------------------------------------
-- Values
------------------------------------------------------------

namespace NeighbourInfo

/- The value of a double. -/
inductive Binary where
  | undefined
  | infinite (negative : Bool)
  | finite
      (negative : Bool)
      (significand : Nat)
      (exponent : Int)
deriving DecidableEq, Repr, Inhabited

namespace Binary

/- The smallest exponent of a finite double. -/
def minExponent :
    Int :=
  -1074

/-
  Read the bits of a double: a sign, eleven bits of exponent
  and fifty-two bits of fraction.
-/
def ofBits
    (bits : UInt64) :
    Binary :=
  let n := bits.toNat
  let negative := n / 0x8000000000000000 == 1
  let biased : Nat := n / 0x10000000000000 % 0x800
  let fraction : Nat := n % 0x10000000000000
  if biased = 2047 then
    if fraction = 0 then .infinite negative else .undefined
  else if biased = 0 then
    .finite negative fraction minExponent
  else
    .finite negative (0x10000000000000 + fraction)
      (biased - 1075)

/- The value of a double. -/
def ofFloat
    (x : Float) :
    Binary :=
  ofBits x.toBits

/- `significand * 2 ^ exponent` as a quotient. -/
def ratio
    (significand : Nat)
    (exponent : Int) :
    Nat × Nat :=
  if 0 ≤ exponent then
    (significand * Nat.pow 2 exponent.toNat, 1)
  else (significand, Nat.pow 2 (-exponent).toNat)

end Binary

end NeighbourInfo

------------------------------------------------------------
-- Nearest Doubles
------------------------------------------------------------

namespace NeighbourInfo

namespace Binary

/- The quotient `num / den` divided by a power of two. -/
def halve
    (num : Nat)
    (den : Nat)
    (exponent : Int) :
    Nat × Nat :=
  if 0 ≤ exponent then (num, den * Nat.pow 2 exponent.toNat)
  else (num * Nat.pow 2 (-exponent).toNat, den)

/-
  The exponent that leaves a positive quotient with at most
  fifty-three bits before the binary point.
-/
def exponentFor
    (num : Nat)
    (den : Nat) :
    Int :=
  let guess :=
    max minExponent ((num.log2 : Int) - den.log2 - 53)
  let halved := halve num den guess
  if halved.2 * 0x20000000000000 ≤ halved.1 then guess + 1
  else guess

/- The sign bit. -/
def signBit
    (negative : Bool) :
    Nat :=
  if negative then 0x8000000000000000 else 0

/- The bits of an infinity. -/
def infinityBits
    (negative : Bool) :
    UInt64 :=
  UInt64.ofNat (signBit negative + 0x7ff0000000000000)

/-
  The bits of the double nearest to `num / den`; of two
  equally near the one with an even significand, and an
  infinity beyond the largest double.  A significand rounded
  up to the next power of two carries into the exponent bits
  by itself.
-/
def nearestBits
    (negative : Bool)
    (num : Nat)
    (den : Nat) :
    UInt64 :=
  let exponent := exponentFor num den
  let halved := halve num den exponent
  let significand := Decimal.roundQuotient halved.1 halved.2
  let magnitude :=
    if significand < 0x10000000000000 then significand
    else
      (exponent + 1074).toNat * 0x10000000000000 +
        significand
  if 0x7ff0000000000000 ≤ magnitude then
    infinityBits negative
  else UInt64.ofNat (signBit negative + magnitude)

end Binary

end NeighbourInfo
