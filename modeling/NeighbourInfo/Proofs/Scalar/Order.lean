import NeighbourInfo.Scalar.Basic
import Mathlib

/-
  The order of scalars.

  Key definitions include:
    * `NeighbourInfo.Scalar.IsNumber`
    * `NeighbourInfo.Scalar.LawfulOrder`
    * `NeighbourInfo.Scalar.Alike`
    * `NeighbourInfo.Scalar.RanksUpTo`

  Comparisons of numbers are those of a linear order in which
  different values may have the same place, as the two zeros
  of doubles do.  What is no number compares with nothing and
  ranks last.  The larger of two values, and the largest of
  several, are described by what they are compared with.
-/

------------------------------------------------------------
-- Laws Of Comparisons
------------------------------------------------------------

namespace NeighbourInfo

namespace Scalar

variable {α : Type} [Scalar α]

/- The value is a number. -/
def IsNumber
    (a : α) :
    Prop :=
  ¬ isNaN a

instance
    (a : α) :
    Decidable (IsNumber a) :=
  inferInstanceAs (Decidable (¬ isNaN a))

/-
  The laws of comparisons: a strict order of the numbers, in
  which any number lies after the first or before the second
  of two that are ordered.  Equal are the numbers of which
  neither comes first.
-/
class LawfulOrder (α : Type) [Scalar α] : Prop where
  lt_asymm {a b : α} : lt a b → ¬ lt b a
  isNumber_of_lt {a b : α} : lt a b → IsNumber a ∧ IsNumber b
  lt_or_lt {a b c : α} :
    lt a c → IsNumber b → lt a b ∨ lt b c
  eq_iff {a b : α} :
    eq a b ↔ IsNumber a ∧ IsNumber b ∧ ¬ lt a b ∧ ¬ lt b a

export LawfulOrder (lt_asymm isNumber_of_lt lt_or_lt eq_iff)

/-
  The laws hold if there is a place for every number in some
  linear order, and numbers compare as their places do.
-/
theorem LawfulOrder.of_places
    {β : Type}
    [LinearOrder β]
    (place : α → Option β)
    (hLt :
      ∀ a b : α,
        lt a b ↔ ∃ p ∈ place a, ∃ q ∈ place b, p < q)
    (hEq :
      ∀ a b : α,
        eq a b ↔ ∃ p ∈ place a, p ∈ place b) :
    LawfulOrder α := by
  have hNumber :
      ∀ a : α, IsNumber a ↔ ∃ p, p ∈ place a := by
    intro a
    have hSelf := hEq a a
    simpa [IsNumber, isNaN] using hSelf
  have hNotLt :
      ∀ a b : α, ∀ p ∈ place a, ∀ q ∈ place b,
        (¬ lt a b ↔ q ≤ p) := by
    intro a b p hP q hQ
    rw [hLt, ← not_lt, not_iff_not]
    constructor
    · rintro ⟨p', hP', q', hQ', hLess⟩
      rwa [Option.mem_unique hP hP', Option.mem_unique hQ hQ']
    · intro hLess
      exact ⟨p, hP, q, hQ, hLess⟩
  constructor
  · intro a b hLess
    rcases (hLt a b).mp hLess with ⟨p, hP, q, hQ, hOrder⟩
    exact (hNotLt b a q hQ p hP).mpr hOrder.le
  · intro a b hLess
    rcases (hLt a b).mp hLess with ⟨p, hP, q, hQ, -⟩
    exact ⟨(hNumber a).mpr ⟨p, hP⟩, (hNumber b).mpr ⟨q, hQ⟩⟩
  · intro a b c hLess hB
    rcases (hLt a c).mp hLess with ⟨p, hP, r, hR, hOrder⟩
    rcases (hNumber b).mp hB with ⟨q, hQ⟩
    rcases lt_or_ge p q with hFirst | hFirst
    · exact Or.inl ((hLt a b).mpr ⟨p, hP, q, hQ, hFirst⟩)
    · exact
        Or.inr
          ((hLt b c).mpr
            ⟨q, hQ, r, hR, hFirst.trans_lt hOrder⟩)
  · intro a b
    rw [hEq, hNumber, hNumber]
    constructor
    · rintro ⟨p, hP, hQ⟩
      exact
        ⟨⟨p, hP⟩, ⟨p, hQ⟩, (hNotLt a b p hP p hQ).mpr le_rfl,
          (hNotLt b a p hQ p hP).mpr le_rfl⟩
    · rintro ⟨⟨p, hP⟩, ⟨q, hQ⟩, hAB, hBA⟩
      have hSame : p = q :=
        le_antisymm ((hNotLt b a q hQ p hP).mp hBA)
          ((hNotLt a b p hP q hQ).mp hAB)
      exact ⟨p, hP, hSame ▸ hQ⟩

end Scalar

end NeighbourInfo

------------------------------------------------------------
-- Comparing Numbers
------------------------------------------------------------

namespace NeighbourInfo

namespace Scalar

variable {α : Type} [Scalar α]
variable {a b c : α}

theorem le_of_lt
    (hLess : lt a b) :
    le a b := by
  rw [le, hLess, Bool.true_or]

theorem le_of_eq
    (hEq : eq a b) :
    le a b := by
  rw [le, hEq, Bool.or_true]

variable [LawfulOrder α]

/- No value is less than itself. -/
theorem lt_irrefl
    (a : α) :
    ¬ lt a a :=
  fun hLess => lt_asymm hLess hLess

theorem lt_trans
    (hAB : lt a b)
    (hBC : lt b c) :
    lt a c := by
  rcases lt_or_lt hAB (isNumber_of_lt hBC).2 with hAC | hCB
  · exact hAC
  · exact absurd hCB (lt_asymm hBC)

/- Up to means that both are numbers, the second not less. -/
theorem le_iff :
    le a b ↔ IsNumber a ∧ IsNumber b ∧ ¬ lt b a := by
  rw [le, Bool.or_eq_true, eq_iff]
  constructor
  · rintro (hLess | ⟨hA, hB, -, hNot⟩)
    · rcases isNumber_of_lt hLess with ⟨hA, hB⟩
      exact ⟨hA, hB, lt_asymm hLess⟩
    · exact ⟨hA, hB, hNot⟩
  · rintro ⟨hA, hB, hNot⟩
    by_cases hLess : lt a b
    · exact Or.inl hLess
    · exact Or.inr ⟨hA, hB, hLess, hNot⟩

theorem not_lt_of_le
    (hLe : le a b) :
    ¬ lt b a :=
  (le_iff.mp hLe).2.2

theorem eq_symm
    (hEq : eq a b) :
    eq b a := by
  rcases eq_iff.mp hEq with ⟨hA, hB, hAB, hBA⟩
  exact eq_iff.mpr ⟨hB, hA, hBA, hAB⟩

theorem lt_of_lt_of_le
    (hAB : lt a b)
    (hBC : le b c) :
    lt a c := by
  rcases le_iff.mp hBC with ⟨-, hC, hNot⟩
  rcases lt_or_lt hAB hC with hAC | hCB
  · exact hAC
  · exact absurd hCB hNot

theorem lt_of_le_of_lt
    (hAB : le a b)
    (hBC : lt b c) :
    lt a c := by
  rcases le_iff.mp hAB with ⟨hA, -, hNot⟩
  rcases lt_or_lt hBC hA with hBA | hAC
  · exact absurd hBA hNot
  · exact hAC

theorem le_trans
    (hAB : le a b)
    (hBC : le b c) :
    le a c := by
  rcases le_iff.mp hAB with ⟨hA, -, -⟩
  rcases le_iff.mp hBC with ⟨-, hC, hNot⟩
  refine le_iff.mpr ⟨hA, hC, ?_⟩
  intro hCA
  exact hNot (lt_of_lt_of_le hCA hAB)

/- Numbers that are up to each other are equal. -/
theorem eq_of_le_of_le
    (hAB : le a b)
    (hBA : le b a) :
    eq a b := by
  rcases le_iff.mp hAB with ⟨hA, hB, hNotBA⟩
  exact eq_iff.mpr ⟨hA, hB, not_lt_of_le hBA, hNotBA⟩

/- The same values are up to equal ones. -/
theorem le_congr_right
    (hEq : eq b c)
    (a : α) :
    le a b = le a c := by
  rw [Bool.eq_iff_iff]
  constructor
  · intro hLe
    exact le_trans hLe (le_of_eq hEq)
  · intro hLe
    exact le_trans hLe (le_of_eq (eq_symm hEq))

/- The same values are less than equal ones. -/
private theorem lt_congr_right
    (hEq : eq b c)
    (a : α) :
    lt a b = lt a c := by
  rw [Bool.eq_iff_iff]
  constructor
  · intro hLess
    exact lt_of_lt_of_le hLess (le_of_eq hEq)
  · intro hLess
    exact lt_of_lt_of_le hLess (le_of_eq (eq_symm hEq))

/- Equal ones are less than the same values. -/
private theorem lt_congr_left
    (hEq : eq a b)
    (c : α) :
    lt a c = lt b c := by
  rw [Bool.eq_iff_iff]
  constructor
  · intro hLess
    exact lt_of_le_of_lt (le_of_eq (eq_symm hEq)) hLess
  · intro hLess
    exact lt_of_le_of_lt (le_of_eq hEq) hLess

end Scalar

end NeighbourInfo

------------------------------------------------------------
-- Values That Compare Alike
------------------------------------------------------------

namespace NeighbourInfo

namespace Scalar

variable {α : Type} [Scalar α]
variable {a b : α}

/- The values are equal, or neither of them is a number. -/
def Alike
    (a : α)
    (b : α) :
    Prop :=
  eq a b ∨ ¬ IsNumber a ∧ ¬ IsNumber b

theorem Alike.refl
    (a : α) :
    Alike a a := by
  by_cases hNumber : IsNumber a
  · left
    simpa [IsNumber, isNaN] using hNumber
  · exact Or.inr ⟨hNumber, hNumber⟩

variable [LawfulOrder α]

theorem Alike.lt_right
    (hAlike : Alike a b)
    (c : α) :
    lt c a = lt c b := by
  rcases hAlike with hEq | ⟨hA, hB⟩
  · exact lt_congr_right hEq c
  · rw [Bool.eq_iff_iff]
    constructor
    · intro hLess
      exact absurd (isNumber_of_lt hLess).2 hA
    · intro hLess
      exact absurd (isNumber_of_lt hLess).2 hB

theorem Alike.lt_left
    (hAlike : Alike a b)
    (c : α) :
    lt a c = lt b c := by
  rcases hAlike with hEq | ⟨hA, hB⟩
  · exact lt_congr_left hEq c
  · rw [Bool.eq_iff_iff]
    constructor
    · intro hLess
      exact absurd (isNumber_of_lt hLess).1 hA
    · intro hLess
      exact absurd (isNumber_of_lt hLess).1 hB

theorem Alike.isNumber_iff
    (hAlike : Alike a b) :
    IsNumber a ↔ IsNumber b := by
  rcases hAlike with hEq | ⟨hA, hB⟩
  · rcases eq_iff.mp hEq with ⟨hA, hB, -⟩
    exact iff_of_true hA hB
  · exact iff_of_false hA hB

theorem Alike.le_right
    (hAlike : Alike a b)
    (c : α) :
    le c a = le c b := by
  rw [Bool.eq_iff_iff, le_iff, le_iff, hAlike.isNumber_iff,
    hAlike.lt_left]

end Scalar

end NeighbourInfo

------------------------------------------------------------
-- Ranks
------------------------------------------------------------

namespace NeighbourInfo

namespace Scalar

variable {α : Type} [Scalar α]
variable {a b c : α}

/- The second value does not rank before the first. -/
def RanksUpTo
    (a : α)
    (b : α) :
    Prop :=
  ¬ before b a

/- What is less ranks before, as does what is a number. -/
theorem before_iff :
    before a b ↔ lt a b ∨ IsNumber a ∧ ¬ IsNumber b := by
  simp [before, IsNumber]

variable [LawfulOrder α]

/- Values that are alike rank alike. -/
theorem Alike.before_eq
    {d : α}
    (hFirst : Alike a b)
    (hSecond : Alike c d) :
    before a c = before b d := by
  rw [Bool.eq_iff_iff, before_iff, before_iff,
    hFirst.lt_left c, hSecond.lt_right b, hFirst.isNumber_iff,
    hSecond.isNumber_iff]

/- Numbers rank as they compare. -/
theorem ranksUpTo_iff_le
    (hA : IsNumber a)
    (hB : IsNumber b) :
    RanksUpTo a b ↔ le a b := by
  rw [RanksUpTo, before_iff, le_iff]
  simp [hA, hB]

/- What does not rank after a number is a number. -/
theorem le_of_ranksUpTo
    (hUpTo : RanksUpTo a b)
    (hB : IsNumber b) :
    le a b := by
  by_cases hA : IsNumber a
  · exact (ranksUpTo_iff_le hA hB).mp hUpTo
  · exact absurd (before_iff.mpr (Or.inr ⟨hB, hA⟩)) hUpTo

theorem RanksUpTo.trans
    (hAB : RanksUpTo a b)
    (hBC : RanksUpTo b c) :
    RanksUpTo a c := by
  intro hCA
  by_cases hB : IsNumber b
  · have hLe := le_of_ranksUpTo hAB hB
    rcases before_iff.mp hCA with hLess | ⟨-, hA⟩
    · exact
        hBC (before_iff.mpr (Or.inl (lt_of_lt_of_le hLess hLe)))
    · exact hA (le_iff.mp hLe).1
  · have hC : IsNumber c := by
      rcases before_iff.mp hCA with hLess | ⟨hC, -⟩
      · exact (isNumber_of_lt hLess).1
      · exact hC
    exact hBC (before_iff.mpr (Or.inr ⟨hC, hB⟩))

/- What does not rank after a value ranks before the next. -/
theorem before_of_ranksUpTo
    (hAB : RanksUpTo a b)
    (hBC : before b c) :
    before a c := by
  by_contra hNot
  exact RanksUpTo.trans hNot hAB hBC

/- Values that do not rank after each other are alike. -/
theorem RanksUpTo.alike
    (hAB : RanksUpTo a b)
    (hBA : RanksUpTo b a) :
    Alike a b := by
  by_cases hB : IsNumber b
  · have hLe := le_of_ranksUpTo hAB hB
    have hA := (le_iff.mp hLe).1
    exact Or.inl (eq_of_le_of_le hLe (le_of_ranksUpTo hBA hA))
  · refine Or.inr ⟨fun hA => hB ?_, hB⟩
    exact (le_iff.mp (le_of_ranksUpTo hBA hA)).1

theorem RanksUpTo.total
    (a : α)
    (b : α) :
    RanksUpTo a b ∨ RanksUpTo b a := by
  by_cases hAB : before a b
  · refine Or.inl fun hBA => ?_
    rcases before_iff.mp hAB with hLess | ⟨hA, hB⟩
    · rcases before_iff.mp hBA with hGreater | ⟨-, hA⟩
      · exact lt_asymm hLess hGreater
      · exact hA (isNumber_of_lt hLess).1
    · rcases before_iff.mp hBA with hGreater | ⟨hB', -⟩
      · exact hB (isNumber_of_lt hGreater).1
      · exact hB hB'
  · exact Or.inr hAB

theorem RanksUpTo.refl
    (a : α) :
    RanksUpTo a a := by
  rcases RanksUpTo.total a a with hSelf | hSelf
  · exact hSelf
  · exact hSelf

end Scalar

end NeighbourInfo

------------------------------------------------------------
-- The Larger And The Largest
------------------------------------------------------------

namespace NeighbourInfo

namespace Scalar

variable {α : Type} [Scalar α]
variable {a b c : α}

/- The larger of two values is one of them. -/
theorem larger_eq_or
    (a : α)
    (b : α) :
    larger a b = a ∨ larger a b = b := by
  unfold larger
  split
  · exact Or.inl rfl
  · split
    · exact Or.inr rfl
    · split
      · exact Or.inr rfl
      · exact Or.inl rfl

variable [LawfulOrder α]

/- A bound of the larger of two values bounds them both. -/
theorem larger_le_iff :
    le (larger a b) c ↔ le a c ∧ le b c := by
  unfold larger
  split
  · rename_i hA
    have hNot : ¬ le a c := fun hLe => (le_iff.mp hLe).1 hA
    simp [hNot]
  · rename_i hA
    split
    · rename_i hB
      have hNot : ¬ le b c := fun hLe => (le_iff.mp hLe).1 hB
      simp [hNot]
    · rename_i hB
      split
      · rename_i hLess
        constructor
        · intro hLe
          exact ⟨le_trans (le_of_lt hLess) hLe, hLe⟩
        · exact And.right
      · rename_i hLess
        constructor
        · intro hLe
          exact ⟨hLe, le_trans (le_iff.mpr ⟨hB, hA, hLess⟩) hLe⟩
        · exact And.left

/- What the larger of two values is less than, both are. -/
theorem larger_lt_iff :
    lt (larger a b) c ↔ lt a c ∧ lt b c := by
  have hNoNumber :
      ∀ {a : α}, isNaN a → ¬ lt a c :=
    fun hNaN hLess => (isNumber_of_lt hLess).1 hNaN
  unfold larger
  split
  · next hA => simp [hNoNumber hA]
  · next hA =>
      split
      · next hB => simp [hNoNumber hB]
      · next hB =>
          split
          · next hAB =>
              constructor
              · intro hLess
                exact ⟨lt_trans hAB hLess, hLess⟩
              · exact And.right
          · next hAB =>
              constructor
              · intro hLess
                have hBA : le b a := le_iff.mpr ⟨hB, hA, hAB⟩
                exact ⟨hLess, lt_of_le_of_lt hBA hLess⟩
              · exact And.left

/- The larger of two values is a number if both are. -/
theorem isNumber_larger_iff :
    IsNumber (larger a b) ↔ IsNumber a ∧ IsNumber b := by
  constructor
  · intro hNumber
    have hSelf : le (larger a b) (larger a b) :=
      le_iff.mpr ⟨hNumber, hNumber, lt_irrefl _⟩
    rcases larger_le_iff.mp hSelf with ⟨hA, hB⟩
    exact ⟨(le_iff.mp hA).1, (le_iff.mp hB).1⟩
  · rintro ⟨hA, hB⟩
    rcases larger_eq_or a b with hEq | hEq
    · rwa [hEq]
    · rwa [hEq]

/- The largest of some values is one of them. -/
omit [LawfulOrder α] in
theorem largest_mem
    {as : List α}
    (hNonempty : as ≠ []) :
    largest as ∈ as := by
  have hFold :
      ∀ (as : List α) (a : α), as.foldl larger a ∈ a :: as := by
    intro as
    induction as with
    | nil => simp
    | cons b as ih =>
        intro a
        have hMem := ih (larger a b)
        rcases larger_eq_or a b with hEq | hEq
        · rw [List.foldl_cons, hEq]
          rw [hEq] at hMem
          rcases List.mem_cons.mp hMem with hHead | hTail
          · simp [hHead]
          · simp [hTail]
        · rw [List.foldl_cons, hEq]
          rw [hEq] at hMem
          exact List.mem_cons_of_mem a hMem
  cases as with
  | nil => exact absurd rfl hNonempty
  | cons a as => exact hFold as a

/- A bound of the largest value bounds all of them. -/
theorem largest_le_iff
    {as : List α}
    (hNonempty : as ≠ []) :
    le (largest as) c ↔ ∀ a ∈ as, le a c := by
  have hFold :
      ∀ (as : List α) (a : α),
        le (as.foldl larger a) c ↔ ∀ b ∈ a :: as, le b c := by
    intro as
    induction as with
    | nil => simp
    | cons b as ih =>
        intro a
        rw [List.foldl_cons, ih]
        simp [larger_le_iff, and_assoc]
  cases as with
  | nil => exact absurd rfl hNonempty
  | cons a as => exact hFold as a

/- Each of some numbers is up to the largest of them. -/
theorem le_largest
    {as : List α}
    (hNumbers : ∀ b ∈ as, IsNumber b)
    (hMem : a ∈ as) :
    le a (largest as) := by
  have hNonempty : as ≠ [] := List.ne_nil_of_mem hMem
  have hLargest : IsNumber (largest as) :=
    hNumbers _ (largest_mem hNonempty)
  exact
    (largest_le_iff hNonempty).mp
      (le_iff.mpr ⟨hLargest, hLargest, lt_irrefl _⟩) a hMem

/- The largest of some numbers does not depend on their order. -/
theorem largest_eq_of_perm
    {as bs : List α}
    (hNonempty : as ≠ [])
    (hPerm : as.Perm bs)
    (hNumbers : ∀ a ∈ as, IsNumber a) :
    eq (largest as) (largest bs) := by
  have hNonempty' : bs ≠ [] := by
    intro hNone
    rw [hNone] at hPerm
    exact hNonempty hPerm.eq_nil
  have hNumbers' : ∀ b ∈ bs, IsNumber b :=
    fun b hB => hNumbers b (hPerm.mem_iff.mpr hB)
  apply eq_of_le_of_le
  · refine (largest_le_iff hNonempty).mpr fun a hA => ?_
    exact le_largest hNumbers' (hPerm.mem_iff.mp hA)
  · refine (largest_le_iff hNonempty').mpr fun b hB => ?_
    exact le_largest hNumbers (hPerm.mem_iff.mpr hB)

/- The largest of some values is a number if all are. -/
theorem isNumber_largest_iff
    {as : List α}
    (hNonempty : as ≠ []) :
    IsNumber (largest as) ↔ ∀ a ∈ as, IsNumber a := by
  constructor
  · intro hNumber a hA
    have hSelf : le (largest as) (largest as) :=
      le_iff.mpr ⟨hNumber, hNumber, lt_irrefl _⟩
    exact
      (le_iff.mp ((largest_le_iff hNonempty).mp hSelf a hA)).1
  · intro hNumbers
    exact hNumbers _ (largest_mem hNonempty)

/- Values in another order have a largest one that is alike. -/
theorem largest_alike_of_perm
    {as bs : List α}
    (hPerm : as.Perm bs) :
    Alike (largest as) (largest bs) := by
  by_cases hNone : as = []
  · rw [hNone] at hPerm
    rw [hNone, hPerm.nil_eq]
    exact Alike.refl _
  · have hNone' : bs ≠ [] := by
      intro hEmpty
      rw [hEmpty] at hPerm
      exact hNone hPerm.eq_nil
    by_cases hNumbers : ∀ a ∈ as, IsNumber a
    · exact Or.inl (largest_eq_of_perm hNone hPerm hNumbers)
    · right
      rw [isNumber_largest_iff hNone,
        isNumber_largest_iff hNone']
      refine ⟨hNumbers, fun hOther => hNumbers ?_⟩
      intro a hA
      exact hOther a (hPerm.mem_iff.mp hA)

end Scalar

end NeighbourInfo
