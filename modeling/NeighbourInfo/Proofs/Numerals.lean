import Mathlib
import NeighbourInfo.Value.Number

/-
  Whole numbers as texts.

  The text of a natural number consists of its digits.  None
  of them is a blank, a sign or an underscore, and a change of
  case leaves them as they are.  So the text is read as the
  number that it was written for, unless it is too long.

  This is proven by:
    * `NeighbourInfo.Decimal.valueOf_toDigits`
    * `NeighbourInfo.Decimal.wholeParts?_repr`
    * `NeighbourInfo.Text.upper_strip_repr`
    * `NeighbourInfo.Value.toInt_repr`
-/

------------------------------------------------------------
-- Digits
------------------------------------------------------------

namespace NeighbourInfo

/- The place of a digit among the characters. -/
theorem toNat_of_isDigit
    {c : Char}
    (hDigit : c.isDigit = true) :
    0x30 ≤ c.toNat ∧ c.toNat ≤ 0x39 := by
  simp only [Char.isDigit, Bool.and_eq_true,
    decide_eq_true_eq] at hDigit
  exact hDigit

namespace Text

theorem isBlank_of_isDigit
    {c : Char}
    (hDigit : c.isDigit = true) :
    isBlank c = false := by
  have hRange := toNat_of_isDigit hDigit
  simp only [isBlank, blanks, List.any_cons, List.any_nil,
    Bool.or_false, Bool.or_eq_false_iff,
    Bool.and_eq_false_iff, decide_eq_false_iff_not]
  omega

theorem upperForm_of_isDigit
    {c : Char}
    (hDigit : c.isDigit = true) :
    upperForm c = [c] := by
  have hRange := toNat_of_isDigit hDigit
  have hNotLower : ¬ c.isLower = true := by
    simp only [Char.isLower, Bool.and_eq_true,
      decide_eq_true_eq]
    rintro ⟨hLow, -⟩
    have hLow : 0x61 ≤ c.toNat := hLow
    omega
  unfold upperForm
  split
  all_goals first
    | omega
    | rw [Char.toUpper_eq_of_not_isLower hNotLower]

end Text

namespace Decimal

theorem plain_of_isDigit
    {c : Char}
    (hDigit : c.isDigit = true) :
    plain c = c := by
  have hRange := toNat_of_isDigit hDigit
  exact if_pos (by omega)

theorem isSpace_of_isDigit
    {c : Char}
    (hDigit : c.isDigit = true) :
    isSpace c = false := by
  have hRange := toNat_of_isDigit hDigit
  have hOther : c ≠ ' ' := by
    rintro rfl
    exact absurd hDigit (by decide)
  simp only [isSpace, hOther, decide_false, Bool.false_or,
    Bool.and_eq_false_iff, decide_eq_false_iff_not]
  omega

/- A digit is no sign. -/
theorem readSign_of_isDigit
    {c : Char}
    (hDigit : c.isDigit = true)
    (cs : List Char) :
    readSign (c :: cs) = (false, c :: cs) := by
  unfold readSign
  split
  · next hCons =>
      cases hCons
      exact absurd hDigit (by decide)
  · next hCons =>
      cases hCons
      exact absurd hDigit (by decide)
  · rfl

/- Digits have the value of the number they are those of. -/
theorem valueOf_toDigits
    (n : Nat) :
    valueOf (Nat.toDigits 10 n) = n :=
  Nat.ofDigitChars_ten_toDigits

end Decimal

end NeighbourInfo

------------------------------------------------------------
-- Texts Of Natural Numbers
------------------------------------------------------------

namespace NeighbourInfo

/- The text of a natural number holds nothing but digits. -/
theorem isDigit_of_mem_repr
    {n : Nat}
    {c : Char}
    (hMem : c ∈ n.repr.toList) :
    c.isDigit = true := by
  rw [Nat.toList_repr] at hMem
  exact
    Nat.isDigit_of_mem_toDigits (by decide) (by decide) hMem

namespace Text

/- Neither stripping nor a change of case has an effect. -/
theorem upper_strip_repr
    (n : Nat) :
    upper (strip n.repr) = n.repr := by
  have hStrip : strip n.repr = n.repr := by
    have hTrim :=
      trim_eq_self (p := isBlank) fun c hC =>
        isBlank_of_isDigit (isDigit_of_mem_repr (n := n) hC)
    rw [strip, hTrim, String.ofList_toList]
  have hUpper :
      n.repr.toList.flatMap upperForm = n.repr.toList := by
    calc
      n.repr.toList.flatMap upperForm
        = n.repr.toList.flatMap fun c => [c] :=
          List.flatMap_congr fun c hC =>
            upperForm_of_isDigit (isDigit_of_mem_repr hC)
      _ = n.repr.toList := List.flatMap_singleton' _
  rw [hStrip, upper, hUpper, String.ofList_toList]

end Text

namespace Decimal

private theorem body_repr
    (n : Nat) :
    body n.repr = Nat.toDigits 10 n := by
  have hPlain : n.repr.toList.map plain = n.repr.toList := by
    refine (List.map_congr_left fun c hC => ?_).trans
      (List.map_id _)
    exact plain_of_isDigit (isDigit_of_mem_repr hC)
  have hTrim :=
    Text.trim_eq_self (p := isSpace) fun c hC =>
      isSpace_of_isDigit (isDigit_of_mem_repr (n := n) hC)
  rw [body, hPlain, hTrim, Nat.toList_repr]

/- All of the text is digits, and there is no sign. -/
theorem wholeParts?_repr
    (n : Nat) :
    wholeParts? n.repr =
      some (false, Nat.toDigits 10 n, []) := by
  have hDigits :
      ∀ c ∈ Nat.toDigits 10 n, c.isDigit = true := fun c hC =>
    Nat.isDigit_of_mem_toDigits (by decide) (by decide) hC
  have hParts :
      ∀ c ∈ Nat.toDigits 10 n, isWholePart c = true := by
    intro c hC
    rw [isWholePart, hDigits c hC, Bool.true_or]
  have hSign :
      readSign (Nat.toDigits 10 n) =
        (false, Nat.toDigits 10 n) := by
    rcases List.exists_cons_of_ne_nil
        (Nat.toDigits_ne_nil (n := n) (b := 10)) with
      ⟨c, cs, hCons⟩
    rw [hCons]
    exact readSign_of_isDigit (hDigits c (by simp [hCons])) cs
  have hSome : (Nat.toDigits 10 n).isEmpty = false := by
    simp
  simp only [wholeParts?, body_repr, hSign,
    List.takeWhile_eq_self_iff.mpr hParts,
    List.dropWhile_eq_nil_iff.mpr hParts,
    joinDigits?_eq_some hDigits, hSome, Option.bind_eq_bind,
    Option.bind_some, Bool.false_eq_true, if_false]

end Decimal

namespace Value

variable {α : Type} [Scalar α] [Literal α]

/- A natural number is read back from a text of its digits. -/
theorem toInt_repr
    {n : Nat}
    (hShort : n.repr.length ≤ Decimal.maxDigits) :
    (text n.repr : Value α).toInt = .ok n := by
  have hLength :
      ¬ Decimal.maxDigits < (Nat.toDigits 10 n).length := by
    rw [← Nat.toList_repr, String.length_toList]
    omega
  simp only [toInt, readInt, Decimal.wholeParts?_repr,
    if_neg hLength, List.isEmpty_nil, if_true,
    Decimal.valueOf_toDigits, Decimal.signed,
    Bool.false_eq_true, if_false]

end Value

end NeighbourInfo
