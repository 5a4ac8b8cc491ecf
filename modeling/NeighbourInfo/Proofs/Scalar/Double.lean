import NeighbourInfo.Proofs.Scalar.Order
import NeighbourInfo.Scalar.Double

/-
  The order of doubles.

  Key definitions include:
    * `NeighbourInfo.Double.place`

  A double that is a number has a place by its sign, its
  exponent and its significand; the two zeros share one.  So
  doubles are scalars with a lawful order.
-/

------------------------------------------------------------
-- Places Of Doubles
------------------------------------------------------------

namespace NeighbourInfo

namespace Double

open Float.Model

/- Places are ordered by their first difference. -/
abbrev Place :=
  Int ×ₗ Int ×ₗ Int

/- A place from its three parts. -/
def placeAt
    (zone : Int)
    (exponent : Int)
    (significand : Int) :
    Place :=
  toLex (zone, toLex (exponent, significand))

private theorem placeAt_lt_iff
    {z e m z' e' m' : Int} :
    placeAt z e m < placeAt z' e' m' ↔
      z < z' ∨ z = z' ∧ (e < e' ∨ e = e' ∧ m < m') := by
  simp [placeAt, Prod.Lex.toLex_lt_toLex]

private theorem placeAt_inj
    {z e m z' e' m' : Int} :
    placeAt z e m = placeAt z' e' m' ↔
      z = z' ∧ e = e' ∧ m = m' := by
  simp [placeAt]

/- The place of a number; what is no number has none. -/
def unpackedPlace :
    UnpackedFloat → Option Place
  | .notANumber => none
  | .infinity .negative => some (placeAt (-2) 0 0)
  | .finite .negative m e _ => some (placeAt (-1) (-e) (-m))
  | .zero _ => some (placeAt 0 0 0)
  | .finite .positive m e _ => some (placeAt 1 e m)
  | .infinity .positive => some (placeAt 2 0 0)

/- The place of a double. -/
def place
    (x : Float) :
    Option Place :=
  unpackedPlace x.toModel.unpack

end Double

end NeighbourInfo

------------------------------------------------------------
-- Comparisons Of Doubles
------------------------------------------------------------

namespace NeighbourInfo

namespace Double

open Float.Model

/- Exponents are compared before significands. -/
private theorem compare_then_eq_lt_iff
    {e e' : Int}
    {m m' : Nat} :
    (compare e e').then (compare m m') = .lt ↔
      e < e' ∨ e = e' ∧ m < m' := by
  simp [Ordering.then_eq_lt, Int.compare_eq_lt,
    Nat.compare_eq_lt]

private theorem compare_then_eq_gt_iff
    {e e' : Int}
    {m m' : Nat} :
    (compare e e').then (compare m m') = .gt ↔
      e' < e ∨ e = e' ∧ m' < m := by
  simp [Ordering.then_eq_gt, Int.compare_eq_gt,
    Nat.compare_eq_gt]

/- A double comes first exactly if its place does. -/
private theorem compare_eq_lt_iff
    (x : UnpackedFloat)
    (y : UnpackedFloat) :
    x.compare y = some .lt ↔
      ∃ p ∈ unpackedPlace x, ∃ q ∈ unpackedPlace y, p < q := by
  -- Only two finite numbers of one sign have to be compared
  -- by their exponents and significands.
  rcases x with ⟨_ | _⟩ | _ | _ | ⟨_ | _, m, e, hM⟩ <;>
    rcases y with ⟨_ | _⟩ | _ | _ | ⟨_ | _, m', e', hM'⟩ <;>
    simp [UnpackedFloat.compare, unpackedPlace,
      placeAt_lt_iff, compare_then_eq_lt_iff,
      compare_then_eq_gt_iff]
  rfl

/- Doubles are equal exactly if they have the same place. -/
private theorem compare_eq_eq_iff
    (x : UnpackedFloat)
    (y : UnpackedFloat) :
    x.compare y = some .eq ↔
      ∃ p ∈ unpackedPlace x, p ∈ unpackedPlace y := by
  rcases x with ⟨_ | _⟩ | _ | _ | ⟨_ | _, m, e, hM⟩ <;>
    rcases y with ⟨_ | _⟩ | _ | _ | ⟨_ | _, m', e', hM'⟩ <;>
    simp [UnpackedFloat.compare, unpackedPlace, placeAt_inj]
  · rfl
  · rfl
  · omega
  · omega

/- A double is less than another if its model comes first. -/
private theorem lt_iff_compare
    (x : Float)
    (y : Float) :
    Scalar.lt x y ↔
      x.toModel.unpack.compare y.toModel.unpack =
        some .lt := by
  change decide (x < y) = true ↔ _
  rw [decide_eq_true_iff]
  change decide (x.toModel < y.toModel) = true ↔ _
  rw [decide_eq_true_iff]
  change UnpackedFloat.lt _ _ = true ↔ _
  rw [UnpackedFloat.lt, beq_iff_eq]

/- Doubles are equal if neither of their models comes first. -/
private theorem eq_iff_compare
    (x : Float)
    (y : Float) :
    Scalar.eq x y ↔
      x.toModel.unpack.compare y.toModel.unpack =
        some .eq := by
  change UnpackedFloat.beq _ _ = true ↔ _
  rw [UnpackedFloat.beq, beq_iff_eq]

end Double

/- Doubles compare as their places do. -/
instance : Scalar.LawfulOrder Float :=
  .of_places Double.place
    (fun x y => by
      rw [Double.lt_iff_compare, Double.compare_eq_lt_iff]
      rfl)
    (fun x y => by
      rw [Double.eq_iff_compare, Double.compare_eq_eq_iff]
      rfl)

end NeighbourInfo
