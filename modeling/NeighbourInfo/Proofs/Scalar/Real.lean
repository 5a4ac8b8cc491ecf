import Mathlib
import NeighbourInfo.Proofs.Scalar.Rational

/-
  Real numbers as scalars.

  Key definitions include:
    * the scalars of `ℝ`
    * the literals of `ℝ`

  Among real numbers roots are exact and `digamma` is the
  function of that name, so that estimates have the values
  that their formulas stand for.  Sums, means and deviations
  are those of mathematics.

  This is proven by:
    * `NeighbourInfo.Reals.sum_eq`
    * `NeighbourInfo.Reals.mean_eq`
    * `NeighbourInfo.Reals.deviation_eq`
-/

------------------------------------------------------------
-- Operations
------------------------------------------------------------

namespace NeighbourInfo

/-
  Real numbers.  Infinity and what is no number have no place
  among them.
-/
noncomputable instance :
    Scalar ℝ where
  ofInt n := n
  lt a b := a < b
  eq a b := a = b
  sqrt := Real.sqrt
  digamma := logDeriv Real.Gamma
  infinity := 0
  nan := 0

instance : Scalar.LawfulOrder ℝ :=
  Scalar.LawfulOrder.of_places (fun a : ℝ => some a)
    (by
      intro a b
      change decide (a < b) = true ↔ _
      simp)
    (by
      intro a b
      change decide (a = b) = true ↔ _
      simp [eq_comm])

instance : Scalar.ExactSums ℝ where
  add_assoc := add_assoc
  add_comm := add_comm
  zero_add := zero_add
  ofInt_zero := Int.cast_zero
  ofInt_add := Int.cast_add

instance : Scalar.ExactArithmetic ℝ where
  sub_sub := sub_sub
  one_mul a := by
    change ((1 : Int) : ℝ) * a = a
    rw [Int.cast_one, one_mul]
  add_mul := add_mul
  add_div := add_div
  mul_div_cancel n a :=
    mul_div_cancel_left₀ a (Nat.cast_ne_zero.mpr n.succ_ne_zero)

end NeighbourInfo

------------------------------------------------------------
-- Reading And Writing
------------------------------------------------------------

namespace NeighbourInfo

/-
  Real numbers are read from the same numerals as rational
  numbers are.  Most of them have no text that reads back, and
  so they are written to some places, as the nearest rational
  number that has no more.
-/
noncomputable instance :
    Literal ℝ where
  ofNumeral n := (Rational.ofNumeral n : ℚ)
  truncate? a := some (if 0 ≤ a then ⌊a⌋ else ⌈a⌉)
  freeText a :=
    Literal.fixedText 17 ((round (a * 10 ^ 17) / 10 ^ 17 : ℚ))
  fixedText places a :=
    Literal.fixedText places
      (round (a * 10 ^ places) / 10 ^ places : ℚ)

end NeighbourInfo

------------------------------------------------------------
-- Sums And Means
------------------------------------------------------------

namespace NeighbourInfo

namespace Reals

@[simp]
theorem lt_eq
    (a : ℝ)
    (b : ℝ) :
    Scalar.lt a b = decide (a < b) := rfl

@[simp]
theorem eq_eq
    (a : ℝ)
    (b : ℝ) :
    Scalar.eq a b = decide (a = b) := rfl

/- Every real number is a number. -/
@[simp]
theorem isNumber
    (a : ℝ) :
    Scalar.IsNumber a := by
  simp [Scalar.IsNumber, Scalar.isNaN]

@[simp]
theorem ofNat_eq
    (n : Nat) :
    (Scalar.ofNat n : ℝ) = n :=
  Int.cast_natCast n

@[simp]
theorem sqrt_eq
    (a : ℝ) :
    Scalar.sqrt a = √a := rfl

theorem abs_eq
    (a : ℝ) :
    Scalar.abs a = |a| := by
  rcases lt_or_ge a 0 with hLess | hNot
  · simp [Scalar.abs, hLess, abs_of_neg]
  · simp [Scalar.abs, hNot.not_gt, abs_of_nonneg hNot]

@[simp]
theorem sum_eq
    (as : List ℝ) :
    Scalar.sum as = as.sum :=
  List.sum_eq_foldl.symm

theorem mean_eq
    (as : List ℝ) :
    Scalar.mean as = as.sum / as.length := by
  change Scalar.sum as / Scalar.ofNat as.length = _
  rw [sum_eq, ofNat_eq]

/- The deviation is the root of the mean square. -/
theorem deviation_eq
    (as : List ℝ) :
    Scalar.deviation as =
      √((as.map fun a => (a - Scalar.mean as) ^ 2).sum /
        as.length) := by
  change √(Scalar.mean _) = _
  rw [mean_eq, List.length_map]
  simp only [sq]

end Reals

end NeighbourInfo
