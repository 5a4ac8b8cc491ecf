import NeighbourInfo.Sums
import Mathlib

/-
  Scalars whose sums are exact.

  Key definitions include:
    * `NeighbourInfo.Scalar.ExactSums`
    * `NeighbourInfo.Scalar.ExactArithmetic`
    * the scalars of `ℚ`

  Doubles round, so what their sums come to depends on how the
  summands are grouped.  Where sums are exact, the sums over
  parts of some points add up to the sums over all of them.
  Where quotients are exact too, what all values have in
  common can be taken out of their mean.

  This is proven by:
    * `NeighbourInfo.Scalar.sum_append`
    * `NeighbourInfo.Scalar.mean_map_add`
    * `NeighbourInfo.Sums.total_map_ofCounts`
-/

------------------------------------------------------------
-- Laws Of Sums
------------------------------------------------------------

namespace NeighbourInfo

namespace Scalar

/-
  The laws of exact sums: a commutative monoid in which whole
  numbers are added as whole numbers.
-/
class ExactSums (α : Type) [Scalar α] : Prop where
  add_assoc (a b c : α) : a + b + c = a + (b + c)
  add_comm (a b : α) : a + b = b + a
  zero_add (a : α) : 0 + a = a
  ofInt_zero : ofInt 0 = (0 : α)
  ofInt_add (m n : Int) :
    ofInt (m + n) = (ofInt m + ofInt n : α)

variable {α : Type} [Scalar α] [ExactSums α]

theorem add_zero
    (a : α) :
    a + 0 = a := by
  rw [ExactSums.add_comm, ExactSums.zero_add]

theorem ofNat_add
    (m : Nat)
    (n : Nat) :
    ofNat (m + n) = (ofNat m + ofNat n : α) := by
  rw [ofNat, Int.natCast_add]
  exact ExactSums.ofInt_add _ _

/- The sum from a value on is the value and the sum. -/
theorem foldl_add_eq
    (a : α)
    (as : List α) :
    as.foldl (· + ·) a = a + sum as := by
  induction as generalizing a with
  | nil => exact (add_zero a).symm
  | cons b as ih =>
      have hSum : sum (b :: as) = b + sum as := by
        rw [sum, List.foldl_cons, ih, ExactSums.zero_add]
      rw [List.foldl_cons, ih, hSum, ExactSums.add_assoc]

theorem sum_append
    (as : List α)
    (bs : List α) :
    sum (as ++ bs) = sum as + sum bs := by
  rw [sum, List.foldl_append, foldl_add_eq]
  rfl

end Scalar

end NeighbourInfo

------------------------------------------------------------
-- Laws Of Arithmetic
------------------------------------------------------------

namespace NeighbourInfo

namespace Scalar

/-
  The laws of exact arithmetic, as they hold in every field in
  which no positive whole number is zero.  They say nothing of
  `digamma`, which may be any function.
-/
class ExactArithmetic (α : Type) [Scalar α] : Prop
    extends ExactSums α where
  sub_sub (a b c : α) : a - b - c = a - (b + c)
  one_mul (a : α) : ofInt 1 * a = a
  add_mul (a b c : α) : (a + b) * c = a * c + b * c
  add_div (a b c : α) : (a + b) / c = a / c + b / c
  mul_div_cancel (n : Nat) (a : α) :
    ofNat (n + 1) * a / ofNat (n + 1) = a

variable {α β : Type} [Scalar α]

theorem sum_cons
    [ExactSums α]
    (a : α)
    (as : List α) :
    sum (a :: as) = a + sum as := by
  rw [sum, List.foldl_cons, foldl_add_eq,
    ExactSums.zero_add]

/- The sum does not depend on the order of the summands. -/
theorem sum_perm
    [ExactSums α]
    {as bs : List α}
    (hPerm : as.Perm bs) :
    sum as = sum bs := by
  induction hPerm with
  | nil => rfl
  | cons a _ ih => rw [sum_cons, sum_cons, ih]
  | swap a b as =>
      rw [sum_cons, sum_cons, sum_cons, sum_cons,
        ← ExactSums.add_assoc, ExactSums.add_comm b,
        ExactSums.add_assoc]
  | trans _ _ ihFirst ihSecond => exact ihFirst.trans ihSecond

theorem mean_perm
    [ExactSums α]
    {as bs : List α}
    (hPerm : as.Perm bs) :
    mean as = mean bs := by
  rw [mean, mean, sum_perm hPerm, hPerm.length_eq]

theorem deviation_perm
    [ExactSums α]
    {as bs : List α}
    (hPerm : as.Perm bs) :
    deviation as = deviation bs := by
  unfold deviation
  rw [mean_perm hPerm]
  exact congrArg sqrt (mean_perm (hPerm.map _))

/- Sums over the same items add up. -/
theorem sum_map_add
    [ExactSums α]
    (f : β → α)
    (g : β → α)
    (items : List β) :
    sum (items.map fun i => f i + g i) =
      sum (items.map f) + sum (items.map g) := by
  induction items with
  | nil => exact (ExactSums.zero_add 0).symm
  | cons i items ih =>
      rw [List.map_cons, List.map_cons, List.map_cons,
        sum_cons, sum_cons, sum_cons, ih,
        ExactSums.add_assoc, ExactSums.add_assoc,
        ← ExactSums.add_assoc (g i),
        ExactSums.add_comm (g i), ExactSums.add_assoc]

/- It does not matter what is added first. -/
theorem add_right_comm
    [ExactSums α]
    (a : α)
    (b : α)
    (c : α) :
    a + b + c = a + c + b := by
  rw [ExactSums.add_assoc, ExactSums.add_comm b,
    ← ExactSums.add_assoc]

variable [ExactArithmetic α]

/- It does not matter what is subtracted first. -/
theorem sub_right_comm
    (a : α)
    (b : α)
    (c : α) :
    a - b - c = a - c - b := by
  rw [ExactArithmetic.sub_sub, ExactArithmetic.sub_sub,
    ExactSums.add_comm]

/- A value that is added to itself is multiplied. -/
theorem sum_replicate
    (n : Nat)
    (a : α) :
    sum (List.replicate (n + 1) a) = ofNat (n + 1) * a := by
  induction n with
  | zero =>
      rw [List.replicate_one, sum_cons, sum_nil, add_zero]
      exact (ExactArithmetic.one_mul a).symm
  | succ n ih =>
      rw [List.replicate_succ, sum_cons, ih,
        ExactSums.add_comm, ofNat_add (n + 1) 1,
        ExactArithmetic.add_mul]
      congr 1
      exact (ExactArithmetic.one_mul a).symm

/- What is part of all values is part of their mean. -/
theorem mean_map_add
    (a : α)
    (f : β → α)
    {items : List β}
    (hSome : items ≠ []) :
    mean (items.map fun i => a + f i) =
      a + sum (items.map f) / ofNat items.length := by
  rcases List.exists_cons_of_ne_nil hSome with
    ⟨i, rest, rfl⟩
  rw [mean, sum_map_add, List.map_const', List.length_map,
    List.length_cons, sum_replicate, ExactArithmetic.add_div,
    ExactArithmetic.mul_div_cancel]

end Scalar

end NeighbourInfo

------------------------------------------------------------
-- Sums Over Points
------------------------------------------------------------

namespace NeighbourInfo

namespace Sums

private theorem ofCount_append
    (count : Counts → Nat)
    (first : List Counts)
    (second : List Counts) :
    ofCount count (first ++ second) =
      ofCount count first + ofCount count second := by
  induction first with
  | nil => simp [ofCount]
  | cons c first ih =>
      rw [List.cons_append, ofCount, ofCount, ih,
        Nat.add_assoc]

private theorem ofCount_perm
    (count : Counts → Nat)
    {first second : List Counts}
    (hPerm : first.Perm second) :
    ofCount count first = ofCount count second := by
  induction hPerm with
  | nil => rfl
  | cons c _ ih => rw [ofCount, ofCount, ih]
  | swap c c' counts =>
      simp only [ofCount]
      omega
  | trans _ _ ihFirst ihSecond => exact ihFirst.trans ihSecond

variable {α : Type} [Scalar α] [Scalar.ExactSums α]

theorem ofCounts_nil
    (algorithm : Algorithm) :
    (ofCounts algorithm [] : Sums α) = zero := by
  have hZero : (Scalar.ofNat 0 : α) = 0 :=
    Scalar.ExactSums.ofInt_zero
  cases algorithm with
  | first => simp [ofCounts, ofCount, zero, hZero]
  | second => simp [ofCounts, ofCount, zero, hZero]

theorem zero_add
    (s : Sums α) :
    zero.add s = s := by
  simp [add, zero, Scalar.ExactSums.zero_add]

theorem add_assoc
    (s : Sums α)
    (t : Sums α)
    (u : Sums α) :
    (s.add t).add u = s.add (t.add u) := by
  simp [add, Scalar.ExactSums.add_assoc]

/- Sums over two sets of points add up. -/
theorem ofCounts_append
    (algorithm : Algorithm)
    (first : List Counts)
    (second : List Counts) :
    (ofCounts algorithm (first ++ second) : Sums α) =
      (ofCounts algorithm first).add
        (ofCounts algorithm second) := by
  cases algorithm with
  | first =>
      simp [ofCounts, add, Scalar.sum_append, ofCount_append,
        Scalar.ofNat_add, Scalar.ExactSums.zero_add]
  | second =>
      simp [ofCounts, add, Scalar.sum_append, ofCount_append,
        Scalar.ofNat_add]

/- The points may be taken in any order. -/
theorem ofCounts_perm
    (algorithm : Algorithm)
    {first second : List Counts}
    (hPerm : first.Perm second) :
    (ofCounts algorithm first : Sums α) =
      ofCounts algorithm second := by
  have hSum :
      ∀ term : Counts → α,
        Scalar.sum (first.map term) =
          Scalar.sum (second.map term) :=
    fun term => Scalar.sum_perm (hPerm.map term)
  cases algorithm with
  | first => simp only [ofCounts, hSum, ofCount_perm _ hPerm]
  | second => simp only [ofCounts, hSum, ofCount_perm _ hPerm]

/- The sums of parts come to the sums of the whole. -/
theorem total_map_ofCounts
    {β : Type}
    (algorithm : Algorithm)
    (counts : β → List Counts)
    (parts : List β) :
    (total (parts.map fun p => ofCounts algorithm (counts p)) :
        Sums α) =
      ofCounts algorithm (parts.flatMap counts) := by
  have hFold :
      ∀ (parts : List β) (s : Sums α),
        (parts.map fun p =>
            ofCounts algorithm (counts p)).foldl add s =
          s.add (ofCounts algorithm (parts.flatMap counts)) := by
    intro parts
    induction parts with
    | nil =>
        intro s
        simp [ofCounts_nil, add, zero, Scalar.add_zero]
    | cons p parts ih =>
        intro s
        rw [List.map_cons, List.foldl_cons, ih,
          List.flatMap_cons, ofCounts_append, add_assoc]
  rw [total, hFold, zero_add]

end Sums

end NeighbourInfo

------------------------------------------------------------
-- Rational Numbers
------------------------------------------------------------

namespace NeighbourInfo

/-
  Rational numbers, whose sums are exact.  The digamma of a
  positive whole number is a harmonic number less Euler's
  constant, which is taken to sixteen places.  A square root
  is exact where there is one; infinity and what is no number
  have no place among rational numbers.
-/
instance :
    Scalar ℚ where
  ofInt n := n
  lt a b := a < b
  eq a b := a = b
  sqrt := Rat.sqrt
  digamma a :=
    harmonic (a.num.toNat - 1) - 5772156649015329 / 10 ^ 16
  infinity := 0
  nan := 0

instance : Scalar.ExactSums ℚ where
  add_assoc := Rat.add_assoc
  add_comm := Rat.add_comm
  zero_add := Rat.zero_add
  ofInt_zero := Int.cast_zero
  ofInt_add := Int.cast_add

instance : Scalar.ExactArithmetic ℚ where
  sub_sub := sub_sub
  one_mul := one_mul
  add_mul := add_mul
  add_div := add_div
  mul_div_cancel n a :=
    mul_div_cancel_left₀ a (Nat.cast_ne_zero.mpr n.succ_ne_zero)

end NeighbourInfo
