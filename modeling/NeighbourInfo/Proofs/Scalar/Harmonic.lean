import NeighbourInfo.Proofs.Scalar.Real

/-
  Scalars whose digammas are harmonic numbers.

  Key definitions include:
    * `NeighbourInfo.Scalar.IsHarmonic`

  At a positive whole number, `digamma` is the harmonic number
  before it, less a constant that is the same for all of them.
  Where arithmetic is exact, a sum of digammas in which that
  constant cancels is a rational number.

  This is proven by:
    * `NeighbourInfo.Scalar.IsHarmonic.digamma_of_pos`
    * `NeighbourInfo.Scalar.IsHarmonic.sum_map`
    * `NeighbourInfo.isHarmonic_rationals`
    * `NeighbourInfo.isHarmonic_reals`
-/

------------------------------------------------------------
-- Laws Of Digammas
------------------------------------------------------------

namespace NeighbourInfo

namespace Scalar

variable {α F : Type} [Scalar α] [Field F]

/-
  The numbers of a field stand for scalars, with the same
  arithmetic and with the same whole numbers.  Digammas are
  harmonic numbers, less the constant `γ`.
-/
structure IsHarmonic
    (embed : F → α)
    (γ : F) :
    Prop where
  ofInt (n : Int) : ofInt n = embed n
  add (a b : F) : embed a + embed b = embed (a + b)
  sub (a b : F) : embed a - embed b = embed (a - b)
  div (a b : F) : embed a / embed b = embed (a / b)
  digamma (n : Nat) :
    digamma (ofNat (n + 1)) = embed (harmonic n - γ)

namespace IsHarmonic

variable {embed : F → α} {γ : F}
variable (hHarmonic : IsHarmonic embed γ)
include hHarmonic

theorem ofNat_eq
    (n : Nat) :
    ofNat n = embed n := by
  rw [ofNat, hHarmonic.ofInt, Int.cast_natCast]

theorem digamma_of_pos
    {n : Nat}
    (hPos : 1 ≤ n) :
    Scalar.digamma (ofNat n) =
      embed (harmonic (n - 1) - γ) := by
  rcases Nat.exists_eq_add_of_le' hPos with ⟨m, rfl⟩
  exact hHarmonic.digamma m

/- Sums of numbers of the field are sums of scalars. -/
theorem sum_map
    {β : Type}
    [ExactSums α]
    (f : β → F)
    (items : List β) :
    sum (items.map fun i => embed (f i)) =
      embed (items.map f).sum := by
  induction items with
  | nil =>
      have hZero : (0 : α) = embed 0 := by
        rw [← ExactSums.ofInt_zero, hHarmonic.ofInt,
          Int.cast_zero]
      rw [List.map_nil, sum_nil, List.map_nil, List.sum_nil,
        hZero]
  | cons i items ih =>
      rw [List.map_cons, sum_cons, ih, hHarmonic.add,
        List.map_cons, List.sum_cons]

end IsHarmonic

end Scalar

/- Rational numbers, with the decimals of a constant. -/
theorem isHarmonic_rationals :
    Scalar.IsHarmonic (id : ℚ → ℚ)
      (5772156649015329 / 10 ^ 16) where
  ofInt _ := rfl
  add _ _ := rfl
  sub _ _ := rfl
  div _ _ := rfl
  digamma n := by
    have hArgument :
        ((Scalar.ofNat (n + 1) : ℚ)).num.toNat - 1 = n := by
      change ((((n + 1 : Nat) : Int) : ℚ)).num.toNat - 1 = n
      rw [Rat.num_intCast]
      omega
    change harmonic _ - _ = _
    rw [hArgument]
    simp

/- Real numbers, with the constant of Euler and Mascheroni. -/
theorem isHarmonic_reals :
    Scalar.IsHarmonic (id : ℝ → ℝ)
      Real.eulerMascheroniConstant where
  ofInt _ := rfl
  add _ _ := rfl
  sub _ _ := rfl
  div _ _ := rfl
  digamma n := by
    have hFactorial : ((n.factorial : Nat) : ℝ) ≠ 0 :=
      Nat.cast_ne_zero.mpr n.factorial_ne_zero
    change logDeriv Real.Gamma (Scalar.ofNat (n + 1)) = _
    rw [Reals.ofNat_eq, Nat.cast_add_one, logDeriv_apply,
      Real.deriv_Gamma_nat, Real.Gamma_nat_eq_factorial,
      mul_div_cancel_left₀ _ hFactorial, id, neg_add_eq_sub]

end NeighbourInfo

------------------------------------------------------------
-- Harmonic Numbers
------------------------------------------------------------

namespace NeighbourInfo

theorem monotone_harmonic :
    Monotone harmonic := by
  apply monotone_nat_of_le_succ
  intro n
  rw [harmonic_succ]
  have hTerm : (0 : ℚ) ≤ ((n + 1 : Nat) : ℚ)⁻¹ :=
    inv_nonneg.mpr (Nat.cast_nonneg _)
  exact le_add_of_nonneg_right hTerm

end NeighbourInfo
