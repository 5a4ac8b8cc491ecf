import Mathlib
import NeighbourInfo.Distribution
import NeighbourInfo.Proofs.Scalar.Double
import NeighbourInfo.Proofs.Scalar.Extended
import NeighbourInfo.Proofs.Session.Significance
import NeighbourInfo.Proofs.Units

/-
  What the statistics of a distribution say.

  Key definitions include:
    * `NeighbourInfo.Scalar.ExactFractions`
    * `NeighbourInfo.Distribution.below`
    * `NeighbourInfo.Distribution.apart`
    * `NeighbourInfo.Distribution.share`
    * `NeighbourInfo.Distribution.HasReals`

  Each surrogate reaches the actual value, lies strictly below
  it or does not compare with it.  The p-value counts the
  first kind alone, so that it only tells how many lie below
  where all of them compare.  An undefined average, as there
  is where no neighbour is counted, compares with nothing.
  The t-score has the sign of the distance to the mean, and
  grows with the actual value, as long as the surrogates are
  not all the same.

  This is proven by:
    * `NeighbourInfo.Distribution.reaching_add_below_add_apart`
    * `NeighbourInfo.Distribution.pValue_meaning`
    * `NeighbourInfo.Distribution.HasReals.le_tScore_iff`
    * `NeighbourInfo.Distribution.tScore_order`
-/

------------------------------------------------------------
-- Exact Fractions
------------------------------------------------------------

namespace NeighbourInfo

namespace Scalar

/- Fractions of one size add up as their parts do. -/
class ExactFractions (α : Type) [Scalar α] : Prop
    extends OrderedFractions α where
  div_add_div (m n size : Nat) :
    1 ≤ size →
      ofNat m / ofNat size + ofNat n / ofNat size =
        (ofNat (m + n) / ofNat size : α)
  div_self (size : Nat) :
    1 ≤ size → ofNat size / ofNat size = (ofNat 1 : α)
  div_eq_zero_iff (m size : Nat) :
    1 ≤ size → (ofNat m / ofNat size = (0 : α) ↔ m = 0)

end Scalar

instance : Scalar.ExactFractions ℝ where
  div_add_div m n size _ := by
    simp only [Reals.ofNat_eq, Nat.cast_add, add_div]
  div_self size hSome := by
    have hSize : (size : ℝ) ≠ 0 := by
      exact_mod_cast (by omega : size ≠ 0)
    rw [Reals.ofNat_eq, Reals.ofNat_eq, Nat.cast_one,
      div_self hSize]
  div_eq_zero_iff m size hSome := by
    have hSize : (size : ℝ) ≠ 0 := by
      exact_mod_cast (by omega : size ≠ 0)
    simp [Reals.ofNat_eq, hSize]

/- Fractions are those of the real numbers. -/
private theorem Extended.ofNat_div_ofNat
    {size : Nat}
    (hSome : 1 ≤ size)
    (m : Nat) :
    (Scalar.ofNat m / Scalar.ofNat size : Extended) =
      finite (Scalar.ofNat m / Scalar.ofNat size) := by
  have hSize : (size : ℝ) ≠ 0 := by
    exact_mod_cast (by omega : size ≠ 0)
  rw [ofNat_eq, ofNat_eq, div_finite hSize, Reals.ofNat_eq,
    Reals.ofNat_eq]

instance : Scalar.ExactFractions Extended where
  le_div m n size hLe hSome := by
    rw [Extended.ofNat_div_ofNat hSome,
      Extended.ofNat_div_ofNat hSome]
    exact
      Scalar.OrderedFractions.le_div (α := ℝ) m n size hLe hSome
  div_add_div m n size hSome := by
    simp only [Extended.ofNat_div_ofNat hSome,
      Extended.add_finite,
      Scalar.ExactFractions.div_add_div m n size hSome]
  div_self size hSome := by
    rw [Extended.ofNat_div_ofNat hSome,
      Scalar.ExactFractions.div_self size hSome,
      Extended.ofNat_eq, Reals.ofNat_eq]
  div_eq_zero_iff m size hSome := by
    rw [Extended.ofNat_div_ofNat hSome, Extended.zero_eq,
      Extended.finite.injEq,
      Scalar.ExactFractions.div_eq_zero_iff m size hSome]

end NeighbourInfo

------------------------------------------------------------
-- Kinds Of Values
------------------------------------------------------------

namespace NeighbourInfo

namespace Scalar

variable {α : Type} [Scalar α] [LawfulOrder α]

/- What a value does not reach is below it or apart from it. -/
theorem not_le_iff
    (a : α)
    (value : α) :
    ¬ le a value ↔ lt value a ∨ isNaN value ∨ isNaN a := by
  rw [le_iff, IsNumber, IsNumber]
  tauto

/- A value is of exactly one of three kinds. -/
theorem kind_eq_one
    (a : α)
    (value : α) :
    (if le a value then 1 else 0) +
        (if lt value a then 1 else 0) +
        (if isNaN value || isNaN a then 1 else 0) =
      1 := by
  by_cases hApart : isNaN value ∨ isNaN a
  · have hNotLe := (not_le_iff a value).mpr (.inr hApart)
    have hNotLess : ¬ lt value a := by
      intro hLess
      rcases isNumber_of_lt hLess with ⟨hValue, hA⟩
      exact hApart.elim hValue hA
    rw [if_neg hNotLe, if_neg hNotLess,
      if_pos (Bool.or_eq_true_iff.mpr hApart)]
  · rw [if_neg (mt Bool.or_eq_true_iff.mp hApart)]
    by_cases hLess : lt value a
    · have hNotLe := (not_le_iff a value).mpr (.inl hLess)
      rw [if_neg hNotLe, if_pos hLess]
    · have hLe : le a value := by
        by_contra hNot
        exact ((not_le_iff a value).mp hNot).elim hLess hApart
      rw [if_pos hLe, if_neg hLess]

end Scalar

end NeighbourInfo

------------------------------------------------------------
-- Counting Surrogates
------------------------------------------------------------

namespace NeighbourInfo

namespace Distribution

variable {α : Type} [Scalar α]

/- How many surrogates lie strictly below the actual value. -/
def below
    (d : Distribution α) :
    Nat :=
  d.values.entries.countP fun value =>
    Scalar.lt value d.actual

/-
  How many surrogates do not compare with the actual value,
  as one of the two is no number.
-/
def apart
    (d : Distribution α) :
    Nat :=
  d.values.entries.countP fun value =>
    Scalar.isNaN value || Scalar.isNaN d.actual

/- The fraction that so many surrogates are. -/
def share
    (count : Nat)
    (d : Distribution α) :
    α :=
  Scalar.ofNat count / Scalar.ofNat d.size

/- The p-value is the fraction that reaches the actual value. -/
theorem pValue_eq_share
    {d : Distribution α}
    (hSome : d.size ≠ 0) :
    d.pValue = d.share d.reaching :=
  if_neg hSome

/- The order of the surrogates makes no difference. -/
private theorem reaching_perm
    {d d' : Distribution α}
    (hActual : d'.actual = d.actual)
    (hPerm : d'.values.entries.Perm d.values.entries) :
    d'.reaching = d.reaching := by
  unfold reaching
  rw [hActual]
  exact hPerm.countP_eq _

theorem pValue_perm
    {d d' : Distribution α}
    (hActual : d'.actual = d.actual)
    (hPerm : d'.values.entries.Perm d.values.entries) :
    d'.pValue = d.pValue := by
  unfold pValue size
  rw [reaching_perm hActual hPerm, hPerm.length_eq]

/- Where all compare, none is apart. -/
theorem apart_eq_zero
    {d : Distribution α}
    (hNumbers :
      ∀ value ∈ d.values.entries, Scalar.IsNumber value)
    (hActual : Scalar.IsNumber d.actual) :
    d.apart = 0 := by
  unfold apart
  rw [List.countP_eq_zero]
  intro value hMem hApart
  rcases Bool.or_eq_true_iff.mp hApart with hNaN | hNaN
  · exact hNumbers value hMem hNaN
  · exact hActual hNaN

variable [Scalar.LawfulOrder α]

/- Every surrogate is of exactly one of three kinds. -/
theorem reaching_add_below_add_apart
    (d : Distribution α) :
    d.reaching + d.below + d.apart = d.size := by
  unfold reaching below apart size
  induction d.values.entries with
  | nil => rfl
  | cons value values ih =>
      have hHead := Scalar.kind_eq_one d.actual value
      rw [List.countP_cons, List.countP_cons,
        List.countP_cons, List.length_cons]
      omega

/- No surrogate reaches what all are below or apart from. -/
theorem reaching_eq_zero_iff
    (d : Distribution α) :
    d.reaching = 0 ↔
      ∀ value ∈ d.values.entries,
        Scalar.lt value d.actual ∨ Scalar.isNaN value ∨
          Scalar.isNaN d.actual := by
  unfold reaching
  rw [List.countP_eq_zero]
  exact forall₂_congr fun value _ =>
    Scalar.not_le_iff d.actual value

/- A larger actual value is reached by no more surrogates. -/
theorem reaching_antitone
    {d d' : Distribution α}
    (hValues : d'.values = d.values)
    (hLe : Scalar.le d.actual d'.actual) :
    d'.reaching ≤ d.reaching := by
  unfold reaching
  rw [hValues]
  exact
    List.countP_mono_left fun value _ hReached =>
      Scalar.le_trans hLe hReached

end Distribution

end NeighbourInfo

------------------------------------------------------------
-- Undefined Averages
------------------------------------------------------------

namespace NeighbourInfo

/- The terms of a point that counts no neighbour. -/
private theorem Counts.digammas_of_none :
    (Counts.mk 0 0 0).digammas .second =
      Extended.undefined := by
  have hZero :
      Scalar.digamma (Scalar.ofNat 0 : Extended) =
        .infinite true :=
    if_pos Int.cast_zero
  unfold digammas
  rw [hZero]
  rfl

/- The average is undefined where such a point is. -/
theorem Sums.average_of_none
    {counts : List Counts}
    (hMem : ⟨0, 0, 0⟩ ∈ counts)
    (k : Extended)
    (points : Extended) :
    average .second k
        ((ofCounts .second counts).dividedBy points) =
      .undefined := by
  have hSum :
      Scalar.sum
          (counts.map (Counts.digammas (α := Extended)
            .second)) =
        .undefined :=
    Extended.sum_of_undefined
      (List.mem_map.mpr
        ⟨_, hMem, Counts.digammas_of_none⟩)
  simp [average, ofCounts, dividedBy, hSum]

end NeighbourInfo

------------------------------------------------------------
-- The P-Value
------------------------------------------------------------

namespace NeighbourInfo

namespace Distribution

variable {α : Type} [Scalar α]

section Shares

variable [Scalar.ExactFractions α] {d : Distribution α}

/- Fractions of all surrogates add up to one. -/
theorem share_add_share
    (hSome : d.size ≠ 0)
    {m n : Nat}
    (hAll : m + n = d.size) :
    d.share m + d.share n = Scalar.ofNat 1 := by
  have hPos : 1 ≤ d.size := by omega
  unfold share
  rw [Scalar.ExactFractions.div_add_div m n _ hPos, hAll,
    Scalar.ExactFractions.div_self _ hPos]

theorem pValue_eq_zero_iff
    (hSome : d.size ≠ 0) :
    d.pValue = 0 ↔ d.reaching = 0 := by
  rw [pValue_eq_share hSome]
  exact
    Scalar.ExactFractions.div_eq_zero_iff _ _ (by omega)

theorem pValue_antitone
    [Scalar.LawfulOrder α]
    {d' : Distribution α}
    (hSome : d.size ≠ 0)
    (hValues : d'.values = d.values)
    (hLe : Scalar.le d.actual d'.actual) :
    Scalar.le d'.pValue d.pValue := by
  have hSize : d'.size = d.size := by
    rw [size, hValues]
    rfl
  have hSome' : d'.size ≠ 0 := hSize ▸ hSome
  rw [pValue_eq_share hSome, pValue_eq_share hSome', share,
    share, hSize]
  exact
    Scalar.OrderedFractions.le_div _ _ _
      (reaching_antitone hValues hLe) (by omega)

end Shares

/-
  What a p-value says.  It is the fraction of surrogates that
  reach the actual value, in whatever order they stand.  The
  others lie strictly below it or do not compare with it: all
  of them where it is no number itself.  A larger actual
  value is reached by no more of them.  If fractions are
  exact, those of the three kinds add up to one; so the
  p-value and the fraction below do where all are numbers.
  It is zero just if no surrogate reaches the actual value,
  as each is below it or does not compare with it.
-/
theorem pValue_meaning
    [Scalar.LawfulOrder α]
    (d : Distribution α)
    (hSome : d.size ≠ 0) :
    d.pValue = d.share d.reaching ∧
    d.reaching + d.below + d.apart = d.size ∧
    (∀ d' : Distribution α,
      d'.actual = d.actual →
        d'.values.entries.Perm d.values.entries →
          d'.pValue = d.pValue) ∧
    (∀ d' : Distribution α,
      d'.values = d.values →
        Scalar.le d.actual d'.actual →
          d'.reaching ≤ d.reaching) ∧
    (Scalar.ExactFractions α →
      d.pValue + d.share d.below + d.share d.apart =
        Scalar.ofNat 1 ∧
      ((∀ value ∈ d.values.entries, Scalar.IsNumber value) →
        Scalar.IsNumber d.actual →
          d.pValue + d.share d.below = Scalar.ofNat 1) ∧
      (d.pValue = 0 ↔
        ∀ value ∈ d.values.entries,
          Scalar.lt value d.actual ∨ Scalar.isNaN value ∨
            Scalar.isNaN d.actual) ∧
      ∀ d' : Distribution α,
        d'.values = d.values →
          Scalar.le d.actual d'.actual →
            Scalar.le d'.pValue d.pValue) := by
  have hKinds := reaching_add_below_add_apart d
  refine
    ⟨pValue_eq_share hSome, hKinds, fun d' => pValue_perm,
      fun d' => reaching_antitone, fun hExact => ?_⟩
  refine ⟨?_, ?_, ?_, fun d' => pValue_antitone hSome⟩
  · have hPos : 1 ≤ d.size := by omega
    have hFirst :
        d.share d.reaching + d.share d.below =
          d.share (d.reaching + d.below) :=
      Scalar.ExactFractions.div_add_div _ _ _ hPos
    rw [pValue_eq_share hSome, hFirst]
    exact share_add_share hSome hKinds
  · intro hNumbers hActual
    rw [apart_eq_zero hNumbers hActual] at hKinds
    rw [pValue_eq_share hSome]
    exact share_add_share hSome hKinds
  · rw [pValue_eq_zero_iff hSome, reaching_eq_zero_iff]

/- One surrogate of four is below, and one does not compare. -/
theorem pValue_meaning_extended :
    let d : Distribution Extended :=
      ⟨Tensor.ofList
          [.infinite false, .undefined, .finite 1, .finite 2],
        .finite 2⟩
    d.size ≠ 0 ∧
      d.pValue + d.share d.below + d.share d.apart =
        Scalar.ofNat 1 ∧
      d.pValue ≠ 0 ∧
      Scalar.le ({ d with actual := .infinite false }).pValue
        d.pValue := by
  intro d
  have hSome : d.size ≠ 0 := by decide
  rcases pValue_meaning d hSome with ⟨-, -, -, -, hExact⟩
  rcases hExact inferInstance with
    ⟨hSum, -, hZero, hAntitone⟩
  refine ⟨hSome, hSum, ?_, hAntitone _ rfl rfl⟩
  rw [ne_eq, hZero]
  intro hNone
  have hFirst :
      Extended.infinite false ∈ d.values.entries :=
    List.mem_cons_self
  rcases hNone _ hFirst with hLess | hNaN | hNaN
  · exact Bool.false_ne_true hLess
  · exact Bool.false_ne_true hNaN
  · simp [d, Scalar.isNaN] at hNaN

/-
  Where no neighbour is counted the second algorithm gives an
  undefined average.  No surrogate reaches it, and none lies
  below it.  Among doubles it is the same.
-/
theorem pValue_undefined :
    let counts : List Counts := [⟨0, 0, 0⟩, ⟨0, 0, 0⟩]
    let value : Extended :=
      Sums.average .second (Scalar.ofNat 1)
        ((Sums.ofCounts .second counts).dividedBy
          (Scalar.ofNat 2))
    let d : Distribution Extended :=
      ⟨Tensor.ofList [value], value⟩
    let d' : Distribution Float :=
      ⟨Tensor.ofList [Double.nan], Double.nan⟩
    (Scalar.isNaN value ∧ d.size = 1 ∧ d.pValue = 0 ∧
      d.below = 0 ∧
        d.pValue + d.share d.below ≠ Scalar.ofNat 1) ∧
    (d'.size = 1 ∧ Scalar.eq d'.pValue 0 ∧ d'.below = 0 ∧
      ¬ Scalar.eq (d'.pValue + d'.share d'.below)
        (Scalar.ofNat 1)) := by
  intro counts value d d'
  have hValue : value = .undefined :=
    Sums.average_of_none List.mem_cons_self _ _
  have hNaN : Scalar.isNaN d.actual := by
    rw [show d.actual = .undefined from hValue]
    rfl
  have hSome : d.size ≠ 0 := by decide
  have hPValue : d.pValue = 0 := by
    rw [pValue_eq_zero_iff hSome, reaching_eq_zero_iff]
    exact fun _ _ => .inr (.inr hNaN)
  have hBelow : d.below = 0 :=
    List.countP_eq_zero.mpr fun _ _ hLess =>
      (Scalar.isNumber_of_lt hLess).2 hNaN
  have hShare : d.share d.below = 0 :=
    (Scalar.ExactFractions.div_eq_zero_iff _ _
      (by decide)).mpr hBelow
  have hSum : d.pValue + d.share d.below ≠ Scalar.ofNat 1 := by
    rw [hPValue, hShare]
    simp
  exact
    ⟨⟨hNaN, rfl, hPValue, hBelow, hSum⟩, by decide +kernel⟩

end Distribution

end NeighbourInfo

------------------------------------------------------------
-- The T-Score
------------------------------------------------------------

namespace NeighbourInfo

namespace Distribution

/-
  The surrogates, in an array of any shape, and the actual
  value are these real numbers.
-/
structure HasReals
    (values : List ℝ)
    (a : ℝ)
    (d : Distribution Extended) :
    Prop where
  values : d.values.entries = values.map .finite
  actual : d.actual = .finite a

namespace HasReals

variable {values : List ℝ} (hSome : values ≠ [])
variable {a a' : ℝ} {d d' : Distribution Extended}
variable (hReals : d.HasReals values a)
variable (hReals' : d'.HasReals values a')
include hSome hReals

theorem mean_eq :
    d.mean = .finite (Scalar.mean values) := by
  unfold mean
  rw [hReals.values]
  exact Extended.mean_map_finite hSome

theorem deviation_eq :
    d.deviation = .finite (Scalar.deviation values) := by
  unfold deviation
  rw [hReals.values]
  exact Extended.deviation_map_finite hSome

/- Without deviation only the mean has a finite score. -/
theorem tScore_of_none
    (hNone : Scalar.deviation values = 0) :
    d.tScore =
      if a = Scalar.mean values then 0
      else Scalar.infinity := by
  unfold tScore
  rw [hReals.deviation_eq hSome, hReals.mean_eq hSome,
    hReals.actual]
  simp [hNone]

/- With a deviation the score counts how many it is off. -/
theorem tScore_of_pos
    (hPos : 0 < Scalar.deviation values) :
    d.tScore =
      .finite
        ((a - Scalar.mean values) /
          Scalar.deviation values) := by
  unfold tScore
  rw [hReals.deviation_eq hSome, hReals.mean_eq hSome,
    hReals.actual]
  simp [hPos.ne', Extended.div_finite hPos.ne']

theorem tScore_above
    (hAbove : Scalar.mean values < a) :
    Scalar.lt 0 d.tScore := by
  rcases (Reals.deviation_nonneg values).eq_or_lt with
    hNone | hPos
  · rw [hReals.tScore_of_none hSome hNone.symm,
      if_neg hAbove.ne']
    rfl
  · rw [hReals.tScore_of_pos hSome hPos]
    exact decide_eq_true (div_pos (sub_pos.mpr hAbove) hPos)

theorem tScore_mean
    (hMean : a = Scalar.mean values) :
    d.tScore = 0 := by
  rcases (Reals.deviation_nonneg values).eq_or_lt with
    hNone | hPos
  · rw [hReals.tScore_of_none hSome hNone.symm,
      if_pos hMean]
  · rw [hReals.tScore_of_pos hSome hPos,
      sub_eq_zero.mpr hMean, zero_div]
    rfl

theorem tScore_below
    (hPos : 0 < Scalar.deviation values)
    (hBelow : a < Scalar.mean values) :
    Scalar.lt d.tScore 0 := by
  rw [hReals.tScore_of_pos hSome hPos]
  exact
    decide_eq_true
      (div_neg_of_neg_of_pos (sub_neg.mpr hBelow) hPos)

include hReals'

/- Scores grow with the actual value, with one exception. -/
theorem le_tScore_iff
    (hLe : a ≤ a') :
    Scalar.le d.tScore d'.tScore ↔
      ¬ (Scalar.deviation values = 0 ∧
        a < Scalar.mean values ∧ a' = Scalar.mean values) := by
  rcases (Reals.deviation_nonneg values).eq_or_lt with
    hNone | hPos
  · rw [hReals.tScore_of_none hSome hNone.symm,
      hReals'.tScore_of_none hSome hNone.symm]
    by_cases hCentre : a = Scalar.mean values
    · -- The score is zero, and no score is negative.
      rw [if_pos hCentre]
      refine iff_of_true ?_ fun h => h.2.1.ne hCentre
      split
      · exact Extended.le_finite_iff.mpr le_rfl
      · rfl
    · rw [if_neg hCentre]
      by_cases hCentre' : a' = Scalar.mean values
      · -- The score falls from infinity to zero.
        rw [if_pos hCentre']
        refine iff_of_false Bool.false_ne_true (not_not.mpr ?_)
        exact
          ⟨hNone.symm, (hCentre' ▸ hLe).lt_of_ne hCentre,
            hCentre'⟩
      · rw [if_neg hCentre']
        exact iff_of_true rfl fun h => hCentre' h.2.2
  · rw [hReals.tScore_of_pos hSome hPos,
      hReals'.tScore_of_pos hSome hPos,
      Extended.le_finite_iff]
    refine iff_of_true ?_ fun h => hPos.ne' h.1
    exact div_le_div_of_nonneg_right (by linarith) hPos.le

end HasReals

/-
  How the t-score orders actual values, among real numbers.
  It is positive above the mean of the surrogates and zero at
  it.  Below it is negative, unless all surrogates coincide:
  then it is infinite, and not negative.  This is all that
  keeps the score from growing with the actual value: such a
  value below the mean has a larger score than the mean.
-/
theorem tScore_order
    {values : List ℝ}
    (hSome : values ≠ [])
    {a a' : ℝ}
    (hLe : a ≤ a')
    {d d' : Distribution Extended}
    (hReals : d.HasReals values a)
    (hReals' : d'.HasReals values a') :
    let coincide := ∀ v ∈ values, ∀ w ∈ values, v = w
    (Scalar.lt d.mean d.actual → Scalar.lt 0 d.tScore) ∧
    (Scalar.eq d.actual d.mean → d.tScore = 0) ∧
    (Scalar.lt d.actual d.mean →
      (¬ coincide → Scalar.lt d.tScore 0) ∧
      (coincide → d.tScore = Scalar.infinity)) ∧
    (Scalar.le d.tScore d'.tScore ↔
      ¬ (coincide ∧ Scalar.lt d.actual d.mean ∧
        Scalar.eq d'.actual d'.mean)) := by
  intro coincide
  have hCoincide : Scalar.deviation values = 0 ↔ coincide :=
    Reals.deviation_eq_zero_iff
  rw [hReals.mean_eq hSome, hReals'.mean_eq hSome,
    hReals.actual, hReals'.actual]
  simp only [Extended.lt_finite, Extended.eq_finite,
    decide_eq_true_iff]
  refine
    ⟨hReals.tScore_above hSome, hReals.tScore_mean hSome,
      fun hBelow => ⟨?_, ?_⟩, ?_⟩
  · intro hApart
    have hPos :=
      (Reals.deviation_nonneg values).lt_of_ne'
        (mt hCoincide.mp hApart)
    exact hReals.tScore_below hSome hPos hBelow
  · intro hSame
    rw [hReals.tScore_of_none hSome (hCoincide.mpr hSame),
      if_neg hBelow.ne]
  · rw [← hCoincide]
    exact hReals.le_tScore_iff hSome hReals' hLe

/- One is below the mean of one and three, and two is not. -/
theorem tScore_order_reals :
    let d (a : ℝ) : Distribution Extended :=
      ⟨Tensor.ofList [.finite 1, .finite 3], .finite a⟩
    (d 1).HasReals [1, 3] 1 ∧ (d 2).HasReals [1, 3] 2 ∧
      Scalar.lt (d 1).tScore 0 ∧
      Scalar.le (d 1).tScore (d 2).tScore := by
  intro d
  have hReals (a : ℝ) : (d a).HasReals [1, 3] a := ⟨rfl, rfl⟩
  have hSome : ([1, 3] : List ℝ) ≠ [] := by simp
  have hLe : (1 : ℝ) ≤ 2 := by norm_num
  have hApart :
      ¬ ∀ v ∈ ([1, 3] : List ℝ), ∀ w ∈ ([1, 3] : List ℝ),
        v = w := by
    intro hSame
    have hOne := hSame 1 (by simp) 3 (by simp)
    norm_num at hOne
  have hBelow : Scalar.lt (d 1).actual (d 1).mean := by
    rw [(hReals 1).mean_eq hSome, Reals.mean_eq]
    refine decide_eq_true ?_
    norm_num
  rcases tScore_order hSome hLe (hReals 1) (hReals 2) with
    ⟨-, -, hNegative, hMonotone⟩
  exact
    ⟨hReals 1, hReals 2, (hNegative hBelow).1 hApart,
      hMonotone.mpr fun h => hApart h.1⟩

/-
  Where both surrogates are one, zero is infinitely far above
  them, and so has a larger score than one.
-/
theorem tScore_coincident :
    let d (actual : Float) : Distribution Float :=
      ⟨Tensor.ofList [1, 1], actual⟩
    Scalar.lt (d 0).actual (d 0).mean ∧
      Scalar.lt 0 (d 0).tScore ∧
      Scalar.le (d 0).actual (d 1).actual ∧
      ¬ Scalar.le (d 0).tScore (d 1).tScore := by
  decide +kernel

end Distribution

end NeighbourInfo
