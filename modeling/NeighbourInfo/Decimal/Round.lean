/-
  Rounding a quotient to the nearest whole number.

  Key definitions include:
    * `NeighbourInfo.Decimal.roundQuotient`

  Its law is proven by:
    * `NeighbourInfo.Decimal.roundQuotient_upper`
    * `NeighbourInfo.Decimal.roundQuotient_lower`
-/

------------------------------------------------------------
-- Nearest Whole Number
------------------------------------------------------------

namespace NeighbourInfo

namespace Decimal

/-
  The whole number nearest to `num / den`.  A quotient half
  way between two whole numbers goes to the even one.
-/
def roundQuotient
    (num : Nat)
    (den : Nat) :
    Nat :=
  let quotient := num / den
  let rest := num % den
  if 2 * rest < den then quotient
  else if den < 2 * rest then quotient + 1
  else quotient + quotient % 2

/- Rounding goes up by at most one half. -/
theorem roundQuotient_upper
    (num : Nat)
    {den : Nat}
    (hDen : 0 < den) :
    2 * (roundQuotient num den * den) ≤ 2 * num + den := by
  have hSplit := Nat.div_add_mod' num den
  have hMod := Nat.mod_lt num hDen
  have hParity : num / den % 2 * den ≤ den := by
    have hBit : num / den % 2 ≤ 1 := by omega
    simpa using Nat.mul_le_mul_right den hBit
  simp only [roundQuotient]
  split
  · omega
  · split <;> rw [Nat.add_mul] <;> omega

/- Rounding goes down by at most one half. -/
theorem roundQuotient_lower
    (num : Nat)
    {den : Nat}
    (hDen : 0 < den) :
    2 * num ≤ 2 * (roundQuotient num den * den) + den := by
  have hSplit := Nat.div_add_mod' num den
  have hMod := Nat.mod_lt num hDen
  simp only [roundQuotient]
  split
  · omega
  · split <;> rw [Nat.add_mul] <;> omega

end Decimal

end NeighbourInfo
