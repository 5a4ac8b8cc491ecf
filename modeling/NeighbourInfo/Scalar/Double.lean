import NeighbourInfo.Decimal.Binary
import NeighbourInfo.Scalar.Basic

/-
  Doubles as scalars.

  Key definitions include:
    * `NeighbourInfo.Double.ofDecimal`
    * `NeighbourInfo.Double.ofInt`
    * `NeighbourInfo.Double.digamma`

  Arithmetic and comparisons are those of the machine.  Whole
  and decimal numbers are rounded to the nearest double from
  their exact values.
-/

------------------------------------------------------------
-- Exact Conversions
------------------------------------------------------------

namespace NeighbourInfo

namespace Double

/-
  The double nearest to a decimal number.  Numbers beyond
  `1e310` or below `1e-330` are settled by their length, so
  that a long exponent costs nothing.
-/
def ofDecimal
    (d : Decimal) :
    Float :=
  let top := (Decimal.digitsOf d.digits).length + d.scale
  if d.digits = 0 ∨ top < -330 then
    Float.ofBits (Binary.nearestBits d.negative 0 1)
  else if 310 < top then
    Float.ofBits (Binary.infinityBits d.negative)
  else
    let value := d.ratio
    Float.ofBits
      (Binary.nearestBits d.negative value.1 value.2)

/- The double nearest to a whole number. -/
def ofInt
    (n : Int) :
    Float :=
  ofDecimal ⟨n < 0, n.natAbs, 0⟩

/- One divided by zero. -/
def infinity :
    Float :=
  Float.ofBits (Binary.infinityBits false)

/- Zero divided by zero. -/
def nan :
    Float :=
  0.0 / 0.0

end Double

end NeighbourInfo

------------------------------------------------------------
-- Digamma
------------------------------------------------------------

namespace NeighbourInfo

namespace Double

/- The Euler-Mascheroni constant. -/
def eulerGamma :
    Float :=
  0.577215664901532860606512090082402431

/- The first coefficients of the asymptotic series. -/
def seriesCoefficients :
    List Float :=
  [1.0 / 12.0, -1.0 / 120.0, 1.0 / 252.0, -1.0 / 240.0,
    1.0 / 132.0, -691.0 / 32760.0, 1.0 / 12.0]

/-
  The asymptotic series, accurate from about ten on: the
  logarithm, less half the inverse, less a series in the
  square of the inverse.
-/
def digammaSeries
    (x : Float) :
    Float :=
  let square := 1.0 / (x * x)
  let tail :=
    seriesCoefficients.foldr (fun c s => square * (c + s)) 0.0
  Float.log x - 0.5 / x - tail

/-
  Move an argument up by `steps` with the recurrence
  `digamma x = digamma (x + 1) - 1 / x`.
-/
def digammaAbove
    (steps : Nat)
    (x : Float) :
    Float :=
  match steps with
  | 0 => digammaSeries x
  | steps + 1 => digammaAbove steps (x + 1.0) - 1.0 / x

/- The harmonic sum of the numbers below `n`. -/
def harmonicBelow
    (n : Nat) :
    Float :=
  (List.range (n - 1)).foldl
    (fun s i => s + 1.0 / Float.ofNat (i + 1)) 0.0

/-
  The logarithmic derivative of the gamma function.  Small
  whole numbers give harmonic sums; at zero it is infinite
  and at negative whole numbers it does not exist.  Negative
  arguments are reflected at one half.
-/
def digamma
    (x : Float) :
    Float :=
  if x.isNaN then x
  else if x == 0.0 then 0.0 - 1.0 / x
  else if x < 0.0 then
    let part := x - x.ceil
    if part == 0.0 || x.isInf then nan
    else
      let pi := 3.14159265358979323846
      digammaAbove 10 (1.0 - x) - pi / Float.tan (pi * part)
  else if x ≤ 10.0 && x == x.floor then
    harmonicBelow x.toUInt64.toNat - eulerGamma
  else if x < 10.0 then digammaAbove 10 x
  else digammaSeries x

end Double

end NeighbourInfo

------------------------------------------------------------
-- Scalar Operations
------------------------------------------------------------

namespace NeighbourInfo

instance : Scalar Float where
  zero := 0.0
  ofInt := Double.ofInt
  lt a b := a < b
  eq a b := a == b
  sqrt := Float.sqrt
  digamma := Double.digamma
  infinity := Double.infinity
  nan := Double.nan

end NeighbourInfo
