import NeighbourInfo.Proofs.Scalar.Real

/-
  Real numbers together with two infinities and an undefined
  value.

  Key definitions include:
    * `NeighbourInfo.Extended`
    * the scalars of `Extended`

  Arithmetic goes by the rules for doubles, but nothing is
  rounded and there is only one zero.  So statistics have the
  values that their formulas stand for, unbounded and
  undefined ones included.

  This is proven by:
    * `NeighbourInfo.Extended.mean_map_finite`
    * `NeighbourInfo.Extended.deviation_map_finite`
    * `NeighbourInfo.Extended.sum_of_undefined`
-/

------------------------------------------------------------
-- Operations
------------------------------------------------------------

namespace NeighbourInfo

/- A real number, an infinity with its sign, or undefined. -/
inductive Extended where
  | finite (a : ℝ)
  | infinite (negative : Bool)
  | undefined

namespace Extended

/- Undefined values compare with nothing. -/
noncomputable def lt :
    Extended → Extended → Bool
  | .finite a, .finite b => a < b
  | .finite _, .infinite negative => !negative
  | .infinite negative, .finite _ => negative
  | .infinite negative, .infinite negative' =>
      negative && !negative'
  | _, _ => false

noncomputable def eq :
    Extended → Extended → Bool
  | .finite a, .finite b => a = b
  | .infinite negative, .infinite negative' =>
      negative == negative'
  | _, _ => false

/- Infinities of different signs have no sum. -/
noncomputable def add :
    Extended → Extended → Extended
  | .finite a, .finite b => .finite (a + b)
  | .finite _, .infinite negative => .infinite negative
  | .infinite negative, .finite _ => .infinite negative
  | .infinite negative, .infinite negative' =>
      if negative = negative' then .infinite negative
      else .undefined
  | _, _ => .undefined

noncomputable def opposite :
    Extended → Extended
  | .finite a => .finite (-a)
  | .infinite negative => .infinite !negative
  | .undefined => .undefined

/- The product of an infinity and zero is undefined. -/
noncomputable def mul :
    Extended → Extended → Extended
  | .finite a, .finite b => .finite (a * b)
  | .finite a, .infinite negative =>
      if a = 0 then .undefined
      else .infinite (negative != (a < 0 : Bool))
  | .infinite negative, .finite a =>
      if a = 0 then .undefined
      else .infinite (negative != (a < 0 : Bool))
  | .infinite negative, .infinite negative' =>
      .infinite (negative != negative')
  | _, _ => .undefined

/- Only quotients of two zeros or two infinities have none. -/
noncomputable def div :
    Extended → Extended → Extended
  | .finite a, .finite b =>
      if b = 0 then
        if a = 0 then .undefined else .infinite (a < 0)
      else .finite (a / b)
  | .finite _, .infinite _ => .finite 0
  | .infinite negative, .finite a =>
      .infinite (negative != (a < 0 : Bool))
  | _, _ => .undefined

noncomputable def sqrt :
    Extended → Extended
  | .finite a => if a < 0 then .undefined else .finite √a
  | .infinite false => .infinite false
  | _ => .undefined

/- The function has a pole at zero. -/
noncomputable def digamma :
    Extended → Extended
  | .finite a =>
      if a = 0 then .infinite true
      else .finite (logDeriv Real.Gamma a)
  | .infinite false => .infinite false
  | _ => .undefined

end Extended

noncomputable instance :
    Scalar Extended where
  zero := .finite 0
  add := Extended.add
  sub a b := Extended.add a b.opposite
  mul := Extended.mul
  div := Extended.div
  ofInt n := .finite n
  lt := Extended.lt
  eq := Extended.eq
  sqrt := Extended.sqrt
  digamma := Extended.digamma
  infinity := .infinite false
  nan := .undefined

end NeighbourInfo

------------------------------------------------------------
-- Order
------------------------------------------------------------

namespace NeighbourInfo

namespace Extended

/- The place of a value that can be compared. -/
noncomputable def place :
    Extended → Option EReal
  | .finite a => some a
  | .infinite true => some ⊥
  | .infinite false => some ⊤
  | .undefined => none

private theorem lt_iff_place
    (a : Extended)
    (b : Extended) :
    lt a b ↔ ∃ p ∈ place a, ∃ q ∈ place b, p < q := by
  rcases a with a | ⟨_ | _⟩ | _ <;>
    rcases b with b | ⟨_ | _⟩ | _ <;>
    simp [lt, place]

private theorem eq_iff_place
    (a : Extended)
    (b : Extended) :
    eq a b ↔ ∃ p ∈ place a, p ∈ place b := by
  rcases a with a | ⟨_ | _⟩ | _ <;>
    rcases b with b | ⟨_ | _⟩ | _ <;>
    simp [eq, place, eq_comm]

end Extended

/- Numbers compare by their places among the extended reals. -/
instance : Scalar.LawfulOrder Extended :=
  .of_places Extended.place Extended.lt_iff_place
    Extended.eq_iff_place

end NeighbourInfo

------------------------------------------------------------
-- Real Numbers Among Them
------------------------------------------------------------

namespace NeighbourInfo

namespace Extended

@[simp]
theorem lt_finite
    (a : ℝ)
    (b : ℝ) :
    Scalar.lt (finite a) (finite b) = decide (a < b) := rfl

@[simp]
theorem eq_finite
    (a : ℝ)
    (b : ℝ) :
    Scalar.eq (finite a) (finite b) = decide (a = b) := rfl

theorem le_finite_iff
    {a b : ℝ} :
    Scalar.le (finite a) (finite b) ↔ a ≤ b := by
  simp [Scalar.le, le_iff_lt_or_eq]

@[simp]
theorem zero_eq :
    (0 : Extended) = finite 0 := rfl

@[simp]
theorem add_finite
    (a : ℝ)
    (b : ℝ) :
    finite a + finite b = finite (a + b) := rfl

@[simp]
theorem sub_finite
    (a : ℝ)
    (b : ℝ) :
    finite a - finite b = finite (a - b) :=
  congrArg finite (sub_eq_add_neg a b).symm

@[simp]
theorem mul_finite
    (a : ℝ)
    (b : ℝ) :
    finite a * finite b = finite (a * b) := rfl

theorem div_finite
    {b : ℝ}
    (hSome : b ≠ 0)
    (a : ℝ) :
    finite a / finite b = finite (a / b) :=
  if_neg hSome

@[simp]
theorem ofNat_eq
    (n : Nat) :
    (Scalar.ofNat n : Extended) = finite n :=
  congrArg finite (Int.cast_natCast n)

theorem sum_map_finite
    (as : List ℝ) :
    Scalar.sum (as.map finite) = finite (Scalar.sum as) := by
  rw [Scalar.sum, List.foldl_map]
  exact List.foldl_hom finite fun _ _ => rfl

/- The mean of real numbers is their mean. -/
theorem mean_map_finite
    {as : List ℝ}
    (hSome : as ≠ []) :
    Scalar.mean (as.map finite) = finite (Scalar.mean as) := by
  have hLength : (as.length : ℝ) ≠ 0 := by
    simpa using hSome
  rw [Scalar.mean, sum_map_finite, List.length_map, ofNat_eq,
    div_finite hLength, Scalar.mean, Reals.ofNat_eq]

theorem sqrt_finite
    {a : ℝ}
    (hNonneg : 0 ≤ a) :
    Scalar.sqrt (finite a) = finite √a :=
  if_neg hNonneg.not_gt

/- Their deviation is their deviation as real numbers. -/
theorem deviation_map_finite
    {as : List ℝ}
    (hSome : as ≠ []) :
    Scalar.deviation (as.map finite) =
      finite (Scalar.deviation as) := by
  let square (a : ℝ) : ℝ :=
    (a - Scalar.mean as) * (a - Scalar.mean as)
  have hSquares :
      ((as.map finite).map fun a =>
          (a - finite (Scalar.mean as)) *
            (a - finite (Scalar.mean as))) =
        (as.map square).map finite := by
    simp [square]
  have hNonneg : 0 ≤ Scalar.mean (as.map square) := by
    rw [Reals.mean_eq]
    refine div_nonneg (List.sum_nonneg ?_) (Nat.cast_nonneg _)
    exact List.forall_mem_map.mpr fun a _ => mul_self_nonneg _
  calc
    Scalar.deviation (as.map finite)
      = Scalar.sqrt
          (Scalar.mean ((as.map square).map finite)) := by
        rw [Scalar.deviation, mean_map_finite hSome, hSquares]
    _ = Scalar.sqrt (finite (Scalar.mean (as.map square))) := by
        rw [mean_map_finite (by simpa using hSome)]
    _ = finite (Scalar.deviation as) := sqrt_finite hNonneg

end Extended

end NeighbourInfo

------------------------------------------------------------
-- Undefined Values
------------------------------------------------------------

namespace NeighbourInfo

namespace Extended

@[simp]
theorem undefined_add
    (a : Extended) :
    undefined + a = undefined := rfl

@[simp]
theorem add_undefined
    (a : Extended) :
    a + undefined = undefined := by
  cases a <;> rfl

@[simp]
theorem undefined_sub
    (a : Extended) :
    undefined - a = undefined := rfl

@[simp]
theorem undefined_div
    (a : Extended) :
    undefined / a = undefined := rfl

/- No sum with an undefined summand is defined. -/
theorem sum_of_undefined
    {as : List Extended}
    (hMem : undefined ∈ as) :
    Scalar.sum as = undefined := by
  have hStays :
      ∀ as : List Extended,
        as.foldl (· + ·) undefined = undefined := by
    intro as
    induction as with
    | nil => rfl
    | cons a as ih => exact ih
  -- What was added up before does not matter.
  suffices hFrom :
      ∀ a : Extended, as.foldl (· + ·) a = undefined from
    hFrom 0
  induction as with
  | nil => cases hMem
  | cons b as ih =>
      intro a
      rcases List.mem_cons.mp hMem with rfl | hRest
      · rw [List.foldl_cons, add_undefined, hStays]
      · exact ih hRest (a + b)

end Extended

end NeighbourInfo
