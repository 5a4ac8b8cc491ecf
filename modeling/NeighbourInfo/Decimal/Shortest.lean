import NeighbourInfo.Decimal.Binary

/-
  The shortest decimal number that reads back as a double.

  Key definitions include:
    * `NeighbourInfo.Binary.readsBack`
    * `NeighbourInfo.Binary.shortest`

  The reals nearer to a double than to its neighbours form an
  interval, with its ends when the significand is even.  For
  one digit, two digits and so on, the two neighbours of the
  double on that decimal grid are tried; the first grid with
  a neighbour in the interval gives the digits.
-/

------------------------------------------------------------
-- Rounding Interval
------------------------------------------------------------

namespace NeighbourInfo

namespace Binary

/-
  The ends of the interval in quarters of a unit in the last
  place.  Below a power of two the neighbours lie twice as
  dense, so the lower end is nearer.
-/
def intervalQuarters
    (significand : Nat)
    (exponent : Int) :
    Nat × Nat :=
  let nearer :=
    significand = 0x10000000000000 &&
      minExponent < exponent
  (4 * significand - (if nearer then 1 else 2),
    4 * significand + 2)

/-
  The decimal number `digits * 10 ^ scale` lies in the
  interval of `significand * 2 ^ exponent`.
-/
def readsBack
    (significand : Nat)
    (exponent : Int)
    (digits : Nat)
    (scale : Int) :
    Bool :=
  let ends := intervalQuarters significand exponent
  let quarter := ratio 1 (exponent - 2)
  let low :=
    Decimal.shiftDown (ends.1 * quarter.1) quarter.2 scale
  let high :=
    Decimal.shiftDown (ends.2 * quarter.1) quarter.2 scale
  if significand % 2 = 0 then
    low.1 ≤ digits * low.2 && digits * high.2 ≤ high.1
  else
    low.1 < digits * low.2 && digits * high.2 < high.1

end Binary

end NeighbourInfo

------------------------------------------------------------
-- Shortest Digits
------------------------------------------------------------

namespace NeighbourInfo

namespace Binary

/-
  The number of `count` digits that reads back, the nearer
  one first when both neighbours do.
-/
def withDigits?
    (count : Nat)
    (negative : Bool)
    (significand : Nat)
    (exponent : Int) :
    Option Decimal :=
  let value := ratio significand exponent
  let nearest :=
    Decimal.significant count negative value.1 value.2
  let shifted :=
    Decimal.shiftDown value.1 value.2 nearest.scale
  let below := shifted.1 / shifted.2
  ([nearest.digits, below, below + 1].find? fun digits =>
    readsBack significand exponent digits nearest.scale).map
      fun digits => ⟨negative, digits, nearest.scale⟩

/-
  The shortest decimal number that reads back.  Seventeen
  digits always do.
-/
def shortest
    (negative : Bool)
    (significand : Nat)
    (exponent : Int) :
    Decimal :=
  if significand = 0 then ⟨negative, 0, 0⟩
  else
    let value := ratio significand exponent
    ((List.range 17).findSome? fun count =>
      withDigits? (count + 1) negative significand
        exponent).getD
          (Decimal.significant 17 negative value.1 value.2)

end Binary

end NeighbourInfo
