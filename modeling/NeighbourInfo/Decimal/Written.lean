import NeighbourInfo.Decimal.Shortest

/-
  Written forms of numbers.

  Key definitions include:
    * `NeighbourInfo.Decimal.fixedText`
    * `NeighbourInfo.Decimal.freeText`
    * `NeighbourInfo.Binary.fixedText`
    * `NeighbourInfo.Binary.freeText`

  The fixed form has a given number of decimal places.  The
  free form has the shortest digits that read back; it is
  positional from `1e-4` up to `1e16`, with at least one
  decimal place, and otherwise has an exponent of at least
  two digits.
-/

------------------------------------------------------------
-- Fixed Form
------------------------------------------------------------

namespace NeighbourInfo

namespace Decimal

/- The sign of a number, where it is negative. -/
def signText
    (negative : Bool) :
    List Char :=
  if negative then ['-'] else []

/-
  The digits with a point before the last `places` of them,
  and at least one digit before the point.
-/
def fixedText
    (places : Nat)
    (d : Decimal) :
    String :=
  let written := digitsOf d.digits
  let padded :=
    List.replicate (places + 1 - written.length) '0' ++ written
  let lead := padded.length - places
  String.ofList
    (signText d.negative ++ padded.take lead ++
      '.' :: padded.drop lead)

end Decimal

end NeighbourInfo

------------------------------------------------------------
-- Free Form
------------------------------------------------------------

namespace NeighbourInfo

namespace Decimal

/- The digits without the zeros at their end. -/
def significantDigits
    (written : List Char) :
    List Char :=
  match (written.reverse.dropWhile (· = '0')).reverse with
  | [] => ['0']
  | kept => kept

/-
  Digits whose leading one stands for the given power of ten,
  written without an exponent.
-/
def positional
    (written : List Char)
    (power : Int) :
    List Char :=
  if power < 0 then
    '0' :: '.' ::
      List.replicate ((-power).toNat - 1) '0' ++ written
  else
    let lead := power.toNat + 1
    if written.length ≤ lead then
      written ++ List.replicate (lead - written.length) '0' ++
        ['.', '0']
    else
      written.take lead ++ '.' :: written.drop lead

/- The same digits, written with an exponent. -/
def exponential
    (written : List Char)
    (power : Int) :
    List Char :=
  let exponent := digitsOf power.natAbs
  let mark := if power < 0 then '-' else '+'
  let point :=
    if written.length ≤ 1 then written
    else written.take 1 ++ '.' :: written.drop 1
  point ++ 'e' :: mark ::
    List.replicate (2 - exponent.length) '0' ++ exponent

/- The free form of a decimal number. -/
def freeText
    (d : Decimal) :
    String :=
  let written := digitsOf d.digits
  let power :=
    if d.digits = 0 then 0
    else (written.length : Int) + d.scale - 1
  let kept := significantDigits written
  String.ofList
    (signText d.negative ++
      if -4 ≤ power ∧ power < 16 then positional kept power
      else exponential kept power)

end Decimal

end NeighbourInfo

------------------------------------------------------------
-- Doubles
------------------------------------------------------------

namespace NeighbourInfo

namespace Binary

/- The word for an infinity. -/
def infinityText
    (negative : Bool) :
    String :=
  if negative then "-inf" else "inf"

/-
  A double with a given number of places.  The exact value is
  rounded once, and a half goes to the even digit.
-/
def fixedText
    (places : Nat) :
    Binary → String
  | .undefined => "nan"
  | .infinite negative => infinityText negative
  | .finite negative significand exponent =>
      let value := ratio significand exponent
      (Decimal.atScale negative value.1 value.2
        (-places)).fixedText places

/- The shortest written form that reads back. -/
def freeText :
    Binary → String
  | .undefined => "nan"
  | .infinite negative => infinityText negative
  | .finite negative significand exponent =>
      (shortest negative significand exponent).freeText

end Binary

end NeighbourInfo
