import NeighbourInfo.Table.Gather
import NeighbourInfo.Proofs.Refusal

/-
  Gathering rows by lists of whole numbers.

  Key definitions include:
    * `NeighbourInfo.Table.IsWithin`
    * `NeighbourInfo.Table.row`

  A list of whole numbers is read as a list of indices unless
  one of them is too large for that.  The indices stand for
  rows, from the front or from the back, unless one of them
  is out of bounds.

  This is proven by:
    * `NeighbourInfo.Tensor.indices_whole`
    * `NeighbourInfo.Table.gather_eq_unlessRefused`
    * `NeighbourInfo.Table.map_row_range`
-/

------------------------------------------------------------
-- Reading Indices
------------------------------------------------------------

namespace NeighbourInfo

namespace Tensor

variable {α : Type}

theorem shape?_whole
    (indices : List Int) :
    (Value.list (indices.map Value.whole) : Value α).shape? =
      some [indices.length] := by
  cases indices with
  | nil => rfl
  | cons n indices =>
      have hRest :
          Value.haveShape []
              (indices.map (Value.whole (α := α))) =
            true := by
        induction indices with
        | nil => rfl
        | cons n indices ih =>
            rw [List.map_cons, Value.haveShape, ih]
            rfl
      rw [List.map_cons, Value.shape?]
      simp [Value.shape?, hRest]

theorem leaves_whole
    (indices : List Int) :
    (Value.list (indices.map Value.whole) : Value α).leaves =
      indices.map Value.whole := by
  rw [Value.leaves]
  induction indices with
  | nil => rfl
  | cons n indices ih =>
      rw [List.map_cons, Value.leavesOf, ih]
      rfl

/- The reason to refuse a number as an index. -/
def tooLarge?
    (n : Int) :
    Option (Error α) :=
  if IsIndex n then none else some .tooLarge

theorem findSome?_tooLarge_eq_none
    {indices : List Int}
    (hAll : ∀ n ∈ indices, IsIndex n) :
    indices.findSome? (tooLarge? (α := α)) = none := by
  rw [List.findSome?_eq_none_iff]
  intro n hN
  exact if_pos (hAll n hN)

theorem findSome?_tooLarge_eq_some
    {indices : List Int}
    (hSome : ∃ n ∈ indices, ¬ IsIndex n) :
    indices.findSome? (tooLarge? (α := α)) =
      some .tooLarge := by
  rcases hSome with ⟨n, hN, hLarge⟩
  cases hRefused :
      indices.findSome? (tooLarge? (α := α)) with
  | none =>
      have hNone :=
        List.findSome?_eq_none_iff.mp hRefused n hN
      rw [tooLarge?, if_neg hLarge] at hNone
      exact absurd hNone (by simp)
  | some e =>
      rcases List.exists_of_findSome?_eq_some hRefused with
        ⟨m, -, hReason⟩
      unfold tooLarge? at hReason
      split at hReason
      · exact absurd hReason (by simp)
      · exact hReason.symm

variable [Scalar α] [Literal α]

/- Whole numbers are read unless one of them is too large. -/
theorem indices_whole
    (indices : List Int) :
    Tensor.indices
        (Value.list (indices.map Value.whole) : Value α) =
      unlessRefused (indices.findSome? tooLarge?) indices := by
  have hEach :
      ∀ n ∈ indices,
        ((toIndex : Value α → Except (Error α) Int) ∘
            Value.whole) n =
          unlessRefused (tooLarge? n) (id n) := by
    intro n _
    by_cases hIndex : IsIndex n
    · rw [tooLarge?, if_pos hIndex]
      exact if_pos hIndex
    · rw [tooLarge?, if_neg hIndex]
      exact if_neg hIndex
  have hRead :
      (indices.map Value.whole).mapM
          (toIndex : Value α → Except (Error α) Int) =
        unlessRefused (indices.findSome? tooLarge?)
          indices := by
    rw [List.mapM_map, mapM_unlessRefused hEach, List.map_id]
  have hShape :
      (Value.list (indices.map Value.whole) :
          Value α).arrayShape? =
        some [indices.length] := by
    rw [Value.arrayShape?, shape?_whole]
    rfl
  unfold Tensor.indices Tensor.ofValue
  rw [hShape, leaves_whole]
  simp only [hRead]
  cases indices.findSome? (tooLarge? (α := α)) with
  | some e => rfl
  | none => rfl

end Tensor

end NeighbourInfo

------------------------------------------------------------
-- Gathering
------------------------------------------------------------

namespace NeighbourInfo

namespace Table

variable {α : Type}

/- An index is within the bounds of some rows. -/
def IsWithin
    (n : Nat)
    (index : Int) :
    Prop :=
  -(n : Int) ≤ index ∧ index < n

instance
    (n : Nat)
    (index : Int) :
    Decidable (IsWithin n index) :=
  inferInstanceAs (Decidable (_ ∧ _))

/- The row of an index that is within the bounds. -/
def row
    (t : Table α)
    (index : Int) :
    List α :=
  t.rows.getD (index % t.size).toNat []

/- The reason to refuse an index among some rows. -/
def outside?
    (n : Nat)
    (index : Int) :
    Option (Error α) :=
  if IsWithin n index then none else some (noRow n index)

theorem findSome?_outside_eq_none
    {n : Nat}
    {indices : List Int}
    (hAll : ∀ i ∈ indices, IsWithin n i) :
    indices.findSome? (outside? (α := α) n) = none := by
  rw [List.findSome?_eq_none_iff]
  intro i hI
  exact if_pos (hAll i hI)

/- The first index that is out of bounds is the one named. -/
theorem findSome?_outside_eq_some
    {n : Nat}
    {before after : List Int}
    {index : Int}
    (hBefore : ∀ i ∈ before, IsWithin n i)
    (hOutside : ¬ IsWithin n index)
    (hIndex : Tensor.IsIndex index) :
    (before ++ index :: after).findSome?
        (outside? (α := α) n) =
      some (.outOfBounds index n) := by
  have hReason :
      outside? (α := α) n index =
        some (.outOfBounds index n) := by
    rw [outside?, if_neg hOutside, noRow]
    exact congrArg some (if_pos hIndex)
  rw [List.findSome?_append,
    findSome?_outside_eq_none hBefore, List.findSome?_cons,
    hReason]
  rfl

/- An index from the back is taken modulo the rows. -/
theorem position?_eq
    {n : Nat}
    {index : Int}
    (hWithin : IsWithin n index) :
    position? n index = some (index % n).toNat := by
  rcases hWithin with ⟨hLow, hHigh⟩
  unfold position?
  by_cases hFront : 0 ≤ index
  · rw [if_pos hFront, if_pos hHigh,
      Int.emod_eq_of_lt hFront hHigh]
  · have hBack : index % (n : Int) = index + n := by
      rw [← Int.add_emod_right]
      exact Int.emod_eq_of_lt (by omega) (by omega)
    rw [if_neg hFront, if_pos hLow, hBack]

private theorem rowAt_eq_unlessRefused
    (t : Table α)
    (index : Int) :
    t.rowAt index =
      unlessRefused (outside? t.size index) (t.row index) := by
  by_cases hWithin : IsWithin t.size index
  · rw [rowAt, position?_eq hWithin, outside?,
      if_pos hWithin]
    rfl
  · have hNone : position? t.size index = none := by
      rw [← Option.not_isSome_iff_eq_none,
        isSome_position?_iff]
      exact hWithin
    rw [rowAt, hNone, outside?, if_neg hWithin]
    rfl

/- Rows are gathered unless an index is out of bounds. -/
theorem gather_eq_unlessRefused
    (t : Table α)
    (indices : List Int) :
    t.gather indices =
      unlessRefused (indices.findSome? (outside? t.size))
        ⟨t.width, indices.map t.row⟩ := by
  unfold gather
  rw [mapM_unlessRefused fun index _ =>
    t.rowAt_eq_unlessRefused index]
  cases indices.findSome? (outside? (α := α) t.size) with
  | some e => rfl
  | none => rfl

/- All rows in their order are the table itself. -/
theorem map_row_range
    (t : Table α) :
    (List.range t.size).map (fun i : Nat => t.row i) =
      t.rows := by
  apply List.ext_getElem
  · simp [size]
  · intro i hLeft hRight
    have hRow : (i : Int) % t.size = i :=
      Int.emod_eq_of_lt (by omega) (by
        simp only [size]
        omega)
    simp [row, hRow, List.getElem?_eq_getElem hRight]

end Table

end NeighbourInfo
