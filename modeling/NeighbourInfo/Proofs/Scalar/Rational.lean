import NeighbourInfo.Scalar.Literal
import NeighbourInfo.Proofs.Scalar.Exact
import NeighbourInfo.Proofs.Scalar.Order

/-
  Rational numbers as scalars.

  Key definitions include:
    * the laws of comparisons for `ℚ`
    * `NeighbourInfo.Rational.ofNumeral`
    * the literals of `ℚ`

  Every rational number is a number, and so the comparisons
  are those of the linear order.  Rational numbers are read
  from the same numerals as doubles, without rounding.
-/

------------------------------------------------------------
-- Order
------------------------------------------------------------

namespace NeighbourInfo

instance : Scalar.LawfulOrder ℚ :=
  Scalar.LawfulOrder.of_places (fun a : ℚ => some a)
    (by
      intro a b
      change decide (a < b) = true ↔ _
      simp)
    (by
      intro a b
      change decide (a = b) = true ↔ _
      simp [eq_comm])

end NeighbourInfo

------------------------------------------------------------
-- Reading And Writing
------------------------------------------------------------

namespace NeighbourInfo

namespace Rational

/-
  The rational number that a numeral stands for.  Numerals of
  what is unbounded or no number stand for none, and count as
  zero here.
-/
def ofNumeral :
    Decimal.Numeral → ℚ
  | .finite d =>
      let size : ℚ := d.ratio.1 / d.ratio.2
      if d.negative then -size else size
  | .infinite _ => 0
  | .undefined => 0

/- The quotient in lowest terms, a whole number alone. -/
def text
    (a : ℚ) :
    String :=
  if a.den = 1 then toString a.num
  else toString a.num ++ "/" ++ toString a.den

end Rational

instance : Literal ℚ where
  ofNumeral := Rational.ofNumeral
  truncate? a := some (a.num.tdiv a.den)
  freeText := Rational.text
  fixedText places a :=
    (Decimal.atScale (a < 0) a.num.natAbs a.den
      (-places)).fixedText places

end NeighbourInfo
