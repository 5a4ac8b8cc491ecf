import Mathlib
import NeighbourInfo.Proofs.Counts.Bounds
import NeighbourInfo.Proofs.Scalar.Harmonic

/-
  Local values and averages as rational numbers.

  Key definitions include:
    * `NeighbourInfo.Counts.harmonics`
    * `NeighbourInfo.Counts.rationalValue`
    * `NeighbourInfo.Algorithm.lowest`
    * `NeighbourInfo.Algorithm.highest`
    * `NeighbourInfo.Algorithm.IsBounded`

  In the local values and in the closing formula the constant
  of the digammas cancels, and what remains is rational.  It
  grows with one of the counts and falls with the other two,
  so that the bounds of the counts are those of the values,
  and of their mean.

  This is proven by:
    * `NeighbourInfo.Counts.localValue_eq`
    * `NeighbourInfo.Sums.average_eq`
    * `NeighbourInfo.Counts.IsBetween.lowest_le`
    * `NeighbourInfo.Counts.IsBetween.le_highest`
    * `NeighbourInfo.Sums.isBounded_average`
-/

------------------------------------------------------------
-- Values From Harmonic Numbers
------------------------------------------------------------

namespace NeighbourInfo

namespace Counts

/- The digamma terms of a point, without the constant. -/
def harmonics
    (algorithm : Algorithm)
    (c : Counts) :
    ℚ :=
  match algorithm with
  | .first => harmonic c.z - harmonic c.xz - harmonic c.yz
  | .second =>
      harmonic (c.z - 1) - harmonic (c.xz - 1) -
        harmonic (c.yz - 1)

/- A local value, with harmonic numbers for digammas. -/
def rationalValue
    (algorithm : Algorithm)
    (k : Nat)
    (c : Counts) :
    ℚ :=
  match algorithm with
  | .first => harmonic (k - 1) + c.harmonics .first
  | .second =>
      harmonic (k - 1) - 2 / k + c.harmonics .second +
        1 / c.xz + 1 / c.yz

variable {α F : Type} [Scalar α] [Field F] [CharZero F]
variable {embed : F → α} {γ : F}
variable {algorithm : Algorithm} {k most : Nat} {c : Counts}

section Terms

variable (hHarmonic : Scalar.IsHarmonic embed γ)
include hHarmonic

theorem inverse_eq
    (n : Nat) :
    inverse n = embed ((1 / n : ℚ) : F) := by
  rw [inverse, hHarmonic.ofNat_eq, hHarmonic.ofNat_eq,
    hHarmonic.div]
  congr 1
  push_cast
  rfl

/- One constant remains of the three digammas. -/
theorem digammas_eq
    (hPos : 1 ≤ k)
    (hBetween : c.IsBetween (algorithm.leastCount k) most) :
    c.digammas algorithm =
      embed ((c.harmonics algorithm : F) + γ) := by
  unfold digammas harmonics
  cases algorithm with
  | first =>
      dsimp only
      rw [hHarmonic.digamma, hHarmonic.digamma,
        hHarmonic.digamma, hHarmonic.sub, hHarmonic.sub]
      congr 1
      push_cast
      ring
  | second =>
      have hXZ : 1 ≤ c.xz := hPos.trans hBetween.le_xz
      have hYZ : 1 ≤ c.yz := hPos.trans hBetween.le_yz
      have hZ : 1 ≤ c.z := hXZ.trans hBetween.xz_le
      dsimp only
      rw [hHarmonic.digamma_of_pos hXZ,
        hHarmonic.digamma_of_pos hYZ,
        hHarmonic.digamma_of_pos hZ, hHarmonic.sub,
        hHarmonic.sub]
      congr 1
      push_cast
      ring

/- In a local value the constant cancels. -/
theorem localValue_eq
    (hPos : 1 ≤ k)
    (hBetween : c.IsBetween (algorithm.leastCount k) most) :
    c.localValue algorithm (Scalar.ofNat k) =
      embed (c.rationalValue algorithm k) := by
  have hK := hHarmonic.digamma_of_pos hPos
  have hTerms := digammas_eq hHarmonic hPos hBetween
  unfold localValue rationalValue
  cases algorithm with
  | first =>
      dsimp only
      rw [hK, hTerms, hHarmonic.add]
      congr 1
      push_cast
      ring
  | second =>
      dsimp only
      rw [hK, hTerms, inverse_eq hHarmonic,
        inverse_eq hHarmonic, hHarmonic.ofInt,
        hHarmonic.ofNat_eq, hHarmonic.div, hHarmonic.sub,
        hHarmonic.add, hHarmonic.add, hHarmonic.add]
      congr 1
      push_cast
      ring

end Terms

end Counts

namespace Sums

/- The inverse counts of some points, added up. -/
def inverses
    (count : Counts → Nat)
    (counts : List Counts) :
    ℚ :=
  (counts.map fun c => (1 / count c : ℚ)).sum

variable {α F : Type} [Scalar α] [Scalar.ExactSums α]
variable [Field F] [CharZero F]
variable {embed : F → α} {γ : F}
variable {algorithm : Algorithm} {k most : Nat}
variable {counts : List Counts}
variable (hHarmonic : Scalar.IsHarmonic embed γ)
include hHarmonic

/- As many constants remain as there are points. -/
private theorem sum_digammas_eq
    (hPos : 1 ≤ k)
    (hBetween :
      ∀ c ∈ counts,
        c.IsBetween (algorithm.leastCount k) most) :
    Scalar.sum (counts.map (Counts.digammas algorithm)) =
      embed
        (((counts.map (Counts.harmonics algorithm)).sum : ℚ) +
          counts.length * γ) := by
  have hTerms :
      counts.map (Counts.digammas algorithm) =
        counts.map fun c =>
          embed ((c.harmonics algorithm : F) + γ) := by
    apply List.map_congr_left
    intro c hC
    exact Counts.digammas_eq hHarmonic hPos (hBetween c hC)
  rw [hTerms, hHarmonic.sum_map, List.sum_map_add,
    List.map_const', List.sum_replicate, nsmul_eq_mul,
    Rat.cast_list_sum, List.map_map]
  rfl

private theorem sum_inverse_eq
    (count : Counts → Nat) :
    Scalar.sum
        (counts.map fun c => Counts.inverse (count c)) =
      embed (inverses count counts) := by
  simp only [Counts.inverse_eq hHarmonic]
  rw [hHarmonic.sum_map, inverses, Rat.cast_list_sum,
    List.map_map]
  rfl

/- In the average the constants cancel as well. -/
theorem average_eq
    (hPos : 1 ≤ k)
    (hSome : counts ≠ [])
    (hBetween :
      ∀ c ∈ counts,
        c.IsBetween (algorithm.leastCount k) most) :
    ((ofCounts algorithm counts).dividedBy
        (Scalar.ofNat counts.length)).average algorithm
          (Scalar.ofNat k) =
      embed
        (((counts.map (Counts.rationalValue algorithm k)).sum /
          counts.length : ℚ)) := by
  have hK := hHarmonic.digamma_of_pos hPos
  have hTerms := sum_digammas_eq hHarmonic hPos hBetween
  have hPoints : (counts.length : F) ≠ 0 := by
    rw [Nat.cast_ne_zero, ne_eq, List.length_eq_zero_iff]
    exact hSome
  cases algorithm with
  | first =>
      have hValues :
          (counts.map (Counts.rationalValue .first k)).sum =
            counts.length * harmonic (k - 1) +
              (counts.map (Counts.harmonics .first)).sum := by
        unfold Counts.rationalValue
        dsimp only
        rw [List.sum_map_add, List.map_const',
          List.sum_replicate, nsmul_eq_mul]
      dsimp only [average, dividedBy, ofCounts]
      rw [hK, hTerms, hHarmonic.ofNat_eq, hHarmonic.div,
        hHarmonic.add, hValues]
      congr 1
      push_cast
      field_simp
      ring
  | second =>
      have hValues :
          (counts.map (Counts.rationalValue .second k)).sum =
            counts.length * (harmonic (k - 1) - 2 / k) +
                (counts.map (Counts.harmonics .second)).sum +
              inverses (·.xz) counts +
              inverses (·.yz) counts := by
        unfold Counts.rationalValue
        dsimp only
        rw [List.sum_map_add, List.sum_map_add,
          List.sum_map_add, List.map_const',
          List.sum_replicate, nsmul_eq_mul, inverses, inverses]
      dsimp only [average, dividedBy, ofCounts]
      rw [hK, hTerms, sum_inverse_eq hHarmonic,
        sum_inverse_eq hHarmonic, hHarmonic.ofInt,
        hHarmonic.ofNat_eq, hHarmonic.ofNat_eq, hValues]
      simp only [hHarmonic.div, hHarmonic.sub, hHarmonic.add]
      congr 1
      push_cast
      field_simp
      ring

end Sums

end NeighbourInfo

------------------------------------------------------------
-- Bounds Of Values
------------------------------------------------------------

namespace NeighbourInfo

/- The least value that `n` points can have. -/
def Algorithm.lowest
    (algorithm : Algorithm)
    (k : Nat)
    (n : Nat) :
    ℚ :=
  match algorithm with
  | .first => -(harmonic (n - 1) - harmonic (k - 1))
  | .second =>
      -(harmonic (n - 2) - harmonic (k - 1)) - 2 / k +
        2 / (n - 1 : Nat)

/- The greatest value that `n` points can have. -/
def Algorithm.highest
    (algorithm : Algorithm)
    (k : Nat)
    (n : Nat) :
    ℚ :=
  match algorithm with
  | .first => harmonic (n - 1) - harmonic (k - 1)
  | .second => harmonic (n - 2) - harmonic (k - 1)

/- Harmonic numbers less the next term that is added. -/
theorem harmonic_sub_inverse_le
    {m n : Nat}
    (hPos : 1 ≤ m)
    (hLe : m ≤ n) :
    harmonic (m - 1) - 1 / m ≤ harmonic (n - 1) - 1 / n := by
  induction n, hLe using Nat.le_induction with
  | base => exact le_refl _
  | succ n hLe ih =>
      refine ih.trans ?_
      rcases Nat.exists_eq_add_of_le' (hPos.trans hLe) with
        ⟨j, rfl⟩
      have hNext :
          (1 : ℚ) / ((j + 1 + 1 : Nat) : ℚ) ≤
            1 / ((j + 1 : Nat) : ℚ) := by
        apply one_div_le_one_div_of_le
        · exact Nat.cast_pos.mpr j.succ_pos
        · exact Nat.cast_le.mpr (Nat.le_succ _)
      have hTerm : (0 : ℚ) ≤ 1 / ((j + 1 : Nat) : ℚ) :=
        one_div_nonneg.mpr (Nat.cast_nonneg _)
      rw [Nat.add_sub_cancel, Nat.add_sub_cancel,
        harmonic_succ, ← one_div]
      linarith

namespace Counts

variable {algorithm : Algorithm} {k n : Nat} {c : Counts}

/- The lowest value has as many points as can be counted. -/
theorem IsBetween.lowest_le
    (hPos : 1 ≤ k)
    (hBetween :
      c.IsBetween (algorithm.leastCount k) (n - 1)) :
    algorithm.lowest k n ≤ c.rationalValue algorithm k := by
  cases algorithm with
  | first =>
      have hXZ := monotone_harmonic hBetween.xz_le
      have hYZ :=
        monotone_harmonic (hBetween.yz_le.trans hBetween.z_le)
      simp only [Algorithm.lowest, rationalValue, harmonics]
      linarith
  | second =>
      have hPosXZ : 1 ≤ c.xz := hPos.trans hBetween.le_xz
      have hPosYZ : 1 ≤ c.yz := hPos.trans hBetween.le_yz
      have hPosZ : 1 ≤ c.z := hPosXZ.trans hBetween.xz_le
      have hXZ :=
        harmonic_sub_inverse_le hPosXZ hBetween.xz_le
      have hYZ :=
        harmonic_sub_inverse_le hPosYZ
          (hBetween.yz_le.trans hBetween.z_le)
      have hZ :
          (1 : ℚ) / (n - 1 : Nat) ≤ 1 / c.z := by
        apply one_div_le_one_div_of_le
        · exact Nat.cast_pos.mpr hPosZ
        · exact Nat.cast_le.mpr hBetween.z_le
      have hTwice :
          (2 : ℚ) / (n - 1 : Nat) =
            1 / (n - 1 : Nat) + 1 / (n - 1 : Nat) := by
        ring
      simp only [Algorithm.lowest, rationalValue, harmonics,
        hTwice]
      rw [Nat.sub_sub] at hYZ
      linarith

/- The highest value has as few as have to be counted. -/
theorem IsBetween.le_highest
    (hPos : 1 ≤ k)
    (hBetween :
      c.IsBetween (algorithm.leastCount k) (n - 1)) :
    c.rationalValue algorithm k ≤ algorithm.highest k n := by
  cases algorithm with
  | first =>
      have hXZ : harmonic (k - 1) ≤ harmonic c.xz :=
        monotone_harmonic hBetween.le_xz
      have hYZ : harmonic (k - 1) ≤ harmonic c.yz :=
        monotone_harmonic hBetween.le_yz
      have hZ := monotone_harmonic hBetween.z_le
      simp only [Algorithm.highest, rationalValue, harmonics]
      linarith
  | second =>
      have hXZ := harmonic_sub_inverse_le hPos hBetween.le_xz
      have hYZ := harmonic_sub_inverse_le hPos hBetween.le_yz
      have hZ :
          harmonic (c.z - 1) ≤ harmonic (n - 2) :=
        monotone_harmonic
          (Nat.sub_le_sub_right hBetween.z_le 1)
      have hTwice : (2 : ℚ) / k = 1 / k + 1 / k := by
        ring
      simp only [Algorithm.highest, rationalValue, harmonics,
        hTwice]
      linarith

end Counts

end NeighbourInfo

------------------------------------------------------------
-- Bounded Values
------------------------------------------------------------

namespace NeighbourInfo

/- A rational number, between the bounds for `n` points. -/
def Algorithm.IsBounded
    {α F : Type} [Field F]
    (embed : F → α)
    (algorithm : Algorithm)
    (k : Nat)
    (n : Nat)
    (a : α) :
    Prop :=
  ∃ q : ℚ,
    a = embed q ∧
      algorithm.lowest k n ≤ q ∧ q ≤ algorithm.highest k n

variable {α F : Type} [Scalar α] [Field F] [CharZero F]
variable {embed : F → α} {γ : F}
variable {algorithm : Algorithm} {k n : Nat}
variable (hHarmonic : Scalar.IsHarmonic embed γ)
include hHarmonic

theorem Counts.IsBetween.isBounded_localValue
    {c : Counts}
    (hBetween :
      c.IsBetween (algorithm.leastCount k) (n - 1))
    (hPos : 1 ≤ k) :
    algorithm.IsBounded embed k n
      (c.localValue algorithm (Scalar.ofNat k)) :=
  ⟨c.rationalValue algorithm k,
    localValue_eq hHarmonic hPos hBetween,
    hBetween.lowest_le hPos, hBetween.le_highest hPos⟩

/- The average is bounded as all of the local values are. -/
theorem Sums.isBounded_average
    [Scalar.ExactSums α]
    {counts : List Counts}
    (hPos : 1 ≤ k)
    (hSome : counts ≠ [])
    (hBetween :
      ∀ c ∈ counts,
        c.IsBetween (algorithm.leastCount k) (n - 1)) :
    algorithm.IsBounded embed k n
      (((ofCounts algorithm counts).dividedBy
        (Scalar.ofNat counts.length)).average algorithm
          (Scalar.ofNat k)) := by
  let values := counts.map (Counts.rationalValue algorithm k)
  have hPoints : (0 : ℚ) < counts.length :=
    Nat.cast_pos.mpr (List.length_pos_iff.mpr hSome)
  have hLength : values.length = counts.length :=
    List.length_map _
  have hValue :
      ∀ q ∈ values,
        algorithm.lowest k n ≤ q ∧
          q ≤ algorithm.highest k n := by
    intro q hQ
    rcases List.mem_map.mp hQ with ⟨c, hC, rfl⟩
    exact
      ⟨(hBetween c hC).lowest_le hPos,
        (hBetween c hC).le_highest hPos⟩
  refine
    ⟨values.sum / counts.length,
      average_eq hHarmonic hPos hSome hBetween, ?_, ?_⟩
  · rw [le_div_iff₀' hPoints, ← hLength, ← nsmul_eq_mul]
    exact
      List.card_nsmul_le_sum values _ fun q hQ =>
        (hValue q hQ).1
  · rw [div_le_iff₀' hPoints, ← hLength, ← nsmul_eq_mul]
    exact
      List.sum_le_card_nsmul values _ fun q hQ =>
        (hValue q hQ).2

end NeighbourInfo
