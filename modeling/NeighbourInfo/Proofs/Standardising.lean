import Mathlib
import NeighbourInfo.Proofs.Rows
import NeighbourInfo.Proofs.Scalar.Extended
import NeighbourInfo.Proofs.Units

/-
  What standardising makes of the columns of an array.

  Key definitions include:
    * `NeighbourInfo.Reals.standardised`
    * `NeighbourInfo.Reals.IsConstant`
    * `NeighbourInfo.Reals.IsStandardOf`
    * `NeighbourInfo.Tensor.ofReals`

  Each column is shifted by its mean and divided by its
  deviation, whatever the other columns are.  So it has zero
  mean and unit deviation, and its entries are as far apart,
  compared to each other, as they were.  A column without
  deviation is divided by one instead, and becomes zero.  The
  statement is about real numbers among infinities and
  undefined values, where a division by zero would show.

  This is proven by:
    * `NeighbourInfo.Reals.isStandardOf_standardised`
    * `NeighbourInfo.Table.standardise_ofReals`
    * `NeighbourInfo.Table.standardise_standardise`
    * `NeighbourInfo.Tensor.standardise_columns`
-/

------------------------------------------------------------
-- One Column
------------------------------------------------------------

namespace NeighbourInfo

namespace Reals

/- A column that is shifted and scaled by its own measures. -/
noncomputable def standardised
    (column : List ℝ) :
    List ℝ :=
  column.map fun a =>
    (a - Scalar.mean column) / Table.spread column

variable {column : List ℝ}

@[simp]
theorem length_standardised
    (column : List ℝ) :
    (standardised column).length = column.length :=
  List.length_map _

/- No column is divided by zero. -/
theorem spread_pos
    (column : List ℝ) :
    0 < Table.spread column := by
  rw [spread_eq]
  split
  · exact one_pos
  · next hSome => exact (deviation_nonneg column).lt_of_ne' hSome

/- Standardising is a change of units. -/
theorem standardised_eq_rescaled
    (column : List ℝ) :
    standardised column =
      column.map fun a =>
        (Table.spread column)⁻¹ * a +
          -((Table.spread column)⁻¹ * Scalar.mean column) := by
  apply List.map_congr_left
  intro a _
  field_simp
  ring

theorem mean_standardised
    (hSome : column ≠ []) :
    Scalar.mean (standardised column) = 0 := by
  rw [standardised_eq_rescaled, mean_rescale hSome]
  exact add_neg_cancel _

/- The deviation becomes one, unless there was none. -/
theorem deviation_standardised
    (hSome : column ≠ []) :
    Scalar.deviation (standardised column) =
      if Scalar.deviation column = 0 then 0 else 1 := by
  rw [standardised_eq_rescaled, deviation_rescale hSome,
    abs_of_pos (inv_pos.mpr (spread_pos column)), spread_eq]
  split
  · next hNone => rw [hNone, mul_zero]
  · next hDeviates => exact inv_mul_cancel₀ hDeviates

theorem spread_standardised
    (hSome : column ≠ []) :
    Table.spread (standardised column) = 1 := by
  rw [spread_eq, deviation_standardised hSome]
  by_cases hNone : Scalar.deviation column = 0
  · rw [if_pos hNone, if_pos rfl]
  · rw [if_neg hNone, if_neg one_ne_zero]

/- With zero mean the squares are what the deviation is of. -/
theorem meanSquare_standardised
    (hDeviates : Scalar.deviation column ≠ 0) :
    ((standardised column).map fun a : ℝ => a ^ 2).sum /
        column.length =
      1 := by
  have hSome : column ≠ [] := by
    rintro rfl
    simp [deviation_eq] at hDeviates
  have hOne := deviation_standardised hSome
  rw [if_neg hDeviates, deviation_eq, mean_standardised hSome,
    length_standardised, Real.sqrt_eq_one] at hOne
  simpa using hOne

/- A column without deviation becomes zero. -/
theorem standardised_eq_zero
    (hNone : Scalar.deviation column = 0) :
    ∀ a ∈ standardised column, a = 0 := by
  refine List.forall_mem_map.mpr ?_
  intro a hA
  rw [eq_mean_of_deviation hNone hA, sub_self, zero_div]

end Reals

end NeighbourInfo

------------------------------------------------------------
-- Standardised Entries
------------------------------------------------------------

namespace NeighbourInfo

namespace Reals

/- The first entries of a column all coincide. -/
def IsConstant
    (n : Nat)
    (column : Nat → ℝ) :
    Prop :=
  ∀ i < n, ∀ j < n, column i = column j

/-
  A column has zero mean.  It is zero throughout if the former
  column was constant.  Otherwise it has unit mean square, and
  its entries are in the same order as before and have the
  same distances in proportion to each other.
-/
structure IsStandardOf
    (n : Nat)
    (former : Nat → ℝ)
    (column : Nat → ℝ) :
    Prop where
  mean_eq : (∑ i ∈ Finset.range n, column i) / n = 0
  zero : IsConstant n former → ∀ i < n, column i = 0
  meanSquare_eq :
    ¬ IsConstant n former →
      (∑ i ∈ Finset.range n, column i ^ 2) / n = 1
  lt_iff :
    ¬ IsConstant n former →
      ∀ i < n, ∀ j < n,
        column i < column j ↔ former i < former j
  ratio_eq :
    ¬ IsConstant n former →
      ∀ i < n, ∀ j < n, ∀ k < n, ∀ l < n,
        former k ≠ former l →
          (column i - column j) / (column k - column l) =
            (former i - former j) / (former k - former l)

variable {n : Nat} {former column : Nat → ℝ}

private theorem sum_map_range
    (n : Nat)
    (f : Nat → ℝ) :
    ((List.range n).map f).sum = ∑ i ∈ Finset.range n, f i := by
  rw [← List.sum_toFinset f List.nodup_range,
    List.toFinset_range]

/- Constant columns are those without deviation. -/
private theorem isConstant_iff
    (n : Nat)
    (former : Nat → ℝ) :
    IsConstant n former ↔
      Scalar.deviation ((List.range n).map former) = 0 := by
  rw [deviation_eq_zero_iff, List.forall_mem_map]
  simp only [List.forall_mem_map, List.mem_range]
  rfl

/- Entries that were standardised one by one are standard. -/
theorem isStandardOf_standardised
    (hSome : 1 ≤ n)
    (hColumn :
      (List.range n).map column =
        standardised ((List.range n).map former)) :
    IsStandardOf n former column := by
  have hRange : (List.range n).map former ≠ [] := by
    simp only [ne_eq, List.map_eq_nil_iff, List.range_eq_nil]
    omega
  let centre := Scalar.mean ((List.range n).map former)
  let spread := Table.spread ((List.range n).map former)
  have hSpread : 0 < spread := spread_pos _
  have hEntry :
      ∀ i < n, column i = (former i - centre) / spread := by
    have hMap := hColumn
    rw [standardised, List.map_map, List.map_inj_left] at hMap
    intro i hI
    exact hMap i (List.mem_range.mpr hI)
  have hDifference :
      ∀ i < n, ∀ j < n,
        column i - column j = (former i - former j) / spread := by
    intro i hI j hJ
    rw [hEntry i hI, hEntry j hJ]
    ring
  have hMean := mean_standardised hRange
  rw [← hColumn, mean_eq, sum_map_range, List.length_map,
    List.length_range] at hMean
  constructor
  case mean_eq => exact hMean
  case zero =>
    intro hConstant i hI
    have hZero :=
      standardised_eq_zero ((isConstant_iff n former).mp hConstant)
    rw [← hColumn, List.forall_mem_map] at hZero
    exact hZero i (List.mem_range.mpr hI)
  case meanSquare_eq =>
    intro hVaries
    have hSquare :=
      meanSquare_standardised
        (mt (isConstant_iff n former).mpr hVaries)
    rw [← hColumn, List.map_map, List.length_map,
      List.length_range] at hSquare
    exact (sum_map_range n _) ▸ hSquare
  case lt_iff =>
    intro _ i hI j hJ
    rw [← sub_neg, ← sub_neg (a := former i),
      hDifference i hI j hJ, div_neg_iff]
    constructor
    · rintro (⟨-, hNeg⟩ | ⟨hLess, -⟩)
      · exact absurd hNeg hSpread.not_gt
      · exact hLess
    · exact fun hLess => Or.inr ⟨hLess, hSpread⟩
  case ratio_eq =>
    intro _ i hI j hJ k hK l hL hApart
    rw [hDifference i hI j hJ, hDifference k hK l hL]
    exact div_div_div_cancel_right₀ hSpread.ne' _ _

end Reals

end NeighbourInfo

------------------------------------------------------------
-- Tables Of Real Numbers
------------------------------------------------------------

namespace NeighbourInfo

namespace Table

/- A table of real numbers among the extended ones. -/
def ofReals
    (t : Table ℝ) :
    Table Extended :=
  ⟨t.width, t.rows.map (List.map .finite)⟩

variable {t : Table ℝ}

private theorem isRectangular_ofReals
    (hRectangular : t.IsRectangular) :
    t.ofReals.IsRectangular := by
  refine List.forall_mem_map.mpr ?_
  intro row hRow
  rw [List.length_map]
  exact hRectangular row hRow

private theorem column_ofReals
    (t : Table ℝ)
    (j : Nat) :
    t.ofReals.column j = (t.column j).map .finite := by
  simp only [column, ofReals, List.map_map]
  apply List.map_congr_left
  intro row _
  exact List.getD_map row 0 Extended.finite

private theorem spread_map_finite
    {column : List ℝ}
    (hSome : column ≠ []) :
    spread (column.map Extended.finite) =
      .finite (spread column) := by
  rw [spread, Extended.deviation_map_finite hSome,
    Reals.spread_eq, Extended.zero_eq, Extended.eq_finite,
    Extended.ofNat_eq]
  split
  · next hNone =>
      rw [if_pos (of_decide_eq_true hNone), Nat.cast_one]
  · next hSpread =>
      rw [if_neg (mt decide_eq_true hSpread)]

/- Standardising never leaves the real numbers. -/
theorem standardise_ofReals
    (hRectangular : t.IsRectangular)
    (hSome : t.rows ≠ []) :
    t.ofReals.standardise = t.standardise.ofReals := by
  have hColumn : ∀ j, t.column j ≠ [] := by
    intro j
    simpa [column] using hSome
  have hRows :
      t.ofReals.standardise.rows =
        t.standardise.rows.map (List.map .finite) := by
    rw [rows_standardise hRectangular,
      rows_standardise (isRectangular_ofReals hRectangular)]
    simp only [ofReals, List.map_map]
    apply List.map_congr_left
    intro row _
    apply List.ext_getElem
    · simp
    · intro j hLeft hRight
      have hSpread := (Reals.spread_pos (t.column j)).ne'
      have hMean := Extended.mean_map_finite (hColumn j)
      have hMeasure := spread_map_finite (hColumn j)
      simp only [Function.comp_apply, List.getElem_mapIdx,
        List.getElem_map]
      change
        (.finite _ - Scalar.mean (t.ofReals.column j)) /
            spread (t.ofReals.column j) =
          _
      rw [column_ofReals, hMean, hMeasure,
        Extended.sub_finite, Extended.div_finite hSpread]
  unfold ofReals at hRows ⊢
  rw [← hRows]
  rfl

/- Each column is standardised on its own. -/
theorem column_standardise
    (hRectangular : t.IsRectangular)
    {j : Nat}
    (hColumn : j < t.width) :
    t.standardise.column j =
      Reals.standardised (t.column j) := by
  conv_lhs => rw [column, rows_standardise hRectangular]
  conv_rhs => rw [Reals.standardised, column]
  simp only [List.map_map]
  apply List.map_congr_left
  intro row hRow
  have hEntry : j < row.length := by
    rwa [hRectangular row hRow]
  simp [List.getD_eq_getElem?_getD, hEntry, column]

/- A standardised table stays as it is. -/
theorem standardise_standardise
    (hRectangular : t.IsRectangular)
    (hSome : t.rows ≠ []) :
    t.standardise.standardise = t.standardise := by
  have hStandard : t.standardise.IsRectangular := by
    have hColumns : t.HasColumns t.width :=
      ⟨rfl, hRectangular⟩
    exact hColumns.standardise.isRectangular
  have hRows :
      t.standardise.standardise.rows =
        t.standardise.rows := by
    rw [rows_standardise hStandard]
    refine (List.map_congr_left ?_).trans (List.map_id _)
    intro row hRow
    have hLength := hStandard row hRow
    apply List.ext_getElem
    · simp
    · intro j hLeft hRight
      have hColumn : j < t.width := hLength ▸ hRight
      have hEntries : t.column j ≠ [] := by
        simpa [column] using hSome
      rw [List.getElem_mapIdx,
        column_standardise hRectangular hColumn,
        Reals.mean_standardised hEntries,
        Reals.spread_standardised hEntries, sub_zero, div_one]
      rfl
  exact congrArg (Table.mk t.width) hRows

end Table

end NeighbourInfo

------------------------------------------------------------
-- Arrays Of Real Numbers
------------------------------------------------------------

namespace NeighbourInfo

namespace Tensor

/- An array of real numbers among the extended ones. -/
def ofReals
    (t : Tensor ℝ) :
    Tensor Extended :=
  ⟨t.shape, t.entries.map .finite⟩

private theorem ofReals_toTensor
    (table : Table ℝ)
    (rest : List Nat) :
    (table.toTensor rest).ofReals =
      table.ofReals.toTensor rest := by
  simp [ofReals, Table.toTensor, Table.ofReals, Table.size,
    List.map_flatten]

namespace HasRows

variable {n : Nat} {rest : List Nat} {t : Tensor ℝ}
variable (hRows : t.HasRows n rest)
include hRows

theorem ofReals :
    t.ofReals.HasRows n rest where
  shape_eq := hRows.shape_eq
  rest_ne_nil := hRows.rest_ne_nil
  length_entries := by
    rw [Tensor.ofReals, List.length_map, hRows.length_entries]

private theorem rows_ofReals :
    t.ofReals.rows = t.rows.map (List.map .finite) := by
  rw [hRows.ofReals.rows_eq, hRows.rows_eq]
  exact Table.cut_map Extended.finite t.entries n

/- The entries of a column, row by row. -/
theorem column_eq
    {j : Nat}
    (hColumn : j < rest.prod) :
    (⟨rest.prod, t.rows⟩ : Table ℝ).column j =
      (List.range n).map fun i => t.entry i j := by
  apply List.ext_getElem
  · simp [Table.column, hRows.length_rows]
  · intro i hLeft hRight
    have hRow : i < n := by simpa using hRight
    simp [Table.column, hRows.entry_eq hRow hColumn,
      hRows.length_rows, hRow]

/- An array is standardised as the table of its rows is. -/
theorem standardise_eq
    (hSome : 1 ≤ n) :
    t.ofReals.standardise =
      .ok
        ((⟨rest.prod, t.rows⟩ : Table ℝ).standardise.toTensor
          rest).ofReals := by
  have hAxes := hRows.ofReals.two_le_axes
  have hSomeRows := hRows.rows_ne_nil hSome
  have hTable :
      (⟨rest.prod, t.ofReals.rows⟩ : Table Extended) =
        Table.ofReals ⟨rest.prod, t.rows⟩ := by
    rw [hRows.rows_ofReals]
    rfl
  have hSomeAxis : ¬ t.ofReals.axes = 0 := by omega
  have hNotFlat : ¬ t.ofReals.axes < 2 := by omega
  unfold Tensor.standardise
  simp only [if_neg hSomeAxis, if_neg hNotFlat,
    hRows.ofReals.rowTable_eq, hRows.ofReals.restShape_eq]
  rw [ofReals_toTensor,
    ← Table.standardise_ofReals hRows.isRectangular hSomeRows,
    ← hTable]
  rfl

end HasRows

/-
  What standardising makes of an array of real numbers that
  has at least one row.  The result is an array of real
  numbers of the same shape; there is no division by zero.
  Each column of it has zero mean.  It is zero if the former
  column was constant; otherwise it has unit mean square, and
  the order and the ratios of differences that it had.  To
  standardise the result once more changes nothing.
-/
theorem standardise_columns
    {t : Tensor ℝ}
    {n : Nat}
    {rest : List Nat}
    (hRows : t.HasRows n rest)
    (hSome : 1 ≤ n) :
    ∃ s : Tensor ℝ,
      t.ofReals.standardise = .ok s.ofReals ∧
      s.HasRows n rest ∧
      (∀ j < rest.prod,
        Reals.IsStandardOf n (fun i => t.entry i j)
          fun i => s.entry i j) ∧
      s.ofReals.standardise = .ok s.ofReals := by
  let table : Table ℝ := ⟨rest.prod, t.rows⟩
  let s : Tensor ℝ := table.standardise.toTensor rest
  have hRest := hRows.rest_ne_nil
  have hSomeRows : table.rows ≠ [] := hRows.rows_ne_nil hSome
  have hTable : table.HasColumns rest.prod :=
    ⟨rfl, hRows.isRectangular⟩
  have hStandard := hTable.standardise
  have hRectangular := hStandard.isRectangular
  have hSize : table.standardise.size = n :=
    table.size_standardise.trans hRows.length_rows
  have hS : s.HasRows n rest :=
    hSize ▸ hasRows_toTensor hRest hRectangular
  have hSRows :
      (⟨rest.prod, s.rows⟩ : Table ℝ) = table.standardise := by
    rw [rows_toTensor hRest hRectangular]
    rfl
  have hColumn :
      ∀ j < rest.prod,
        ((List.range n).map fun i => s.entry i j) =
          Reals.standardised
            ((List.range n).map fun i => t.entry i j) := by
    intro j hJ
    rw [← hS.column_eq hJ, ← hRows.column_eq hJ, hSRows]
    exact Table.column_standardise hTable.isRectangular hJ
  refine ⟨s, hRows.standardise_eq hSome, hS, ?_, ?_⟩
  · intro j hJ
    exact Reals.isStandardOf_standardised hSome (hColumn j hJ)
  · rw [hS.standardise_eq hSome, hSRows,
      Table.standardise_standardise hTable.isRectangular
        hSomeRows]

/- One column of two rows varies, the other is constant. -/
theorem standardise_columns_mixed :
    let t : Tensor ℝ := ⟨[2, 2], [1, 5, 3, 5]⟩
    t.HasRows 2 [2] ∧
      1 ≤ 2 ∧
      ∃ s : Tensor ℝ,
        t.ofReals.standardise = .ok s.ofReals ∧
        s = ⟨[2, 2], [-1, 0, 1, 0]⟩ ∧
        s.ofReals.standardise = .ok s.ofReals := by
  intro t
  have hRows : t.HasRows 2 [2] := by
    refine ⟨rfl, ?_, ?_⟩ <;> simp [t]
  obtain ⟨s, hOk, hS, hColumns, hAgain⟩ :=
    standardise_columns hRows one_le_two
  refine ⟨hRows, one_le_two, s, hOk, ?_, hAgain⟩
  obtain ⟨shape, entries⟩ := s
  obtain rfl : shape = [2, 2] := hS.shape_eq
  obtain ⟨a, b, c, d, rfl⟩ :=
    List.length_eq_four.mp hS.length_entries
  have hFirst := hColumns 0 (by simp)
  have hLast := hColumns 1 (by simp)
  have hVaries :
      ¬ Reals.IsConstant 2 fun i => t.entry i 0 := by
    intro hConstant
    have hSame := hConstant 0 two_pos 1 one_lt_two
    norm_num [t, entry, restShape] at hSame
  have hMean : a + c = 0 := by
    simpa [entry, restShape, Finset.sum_range_succ]
      using hFirst.mean_eq
  have hSquare : (a ^ 2 + c ^ 2) / 2 = 1 := by
    simpa [entry, restShape, Finset.sum_range_succ]
      using hFirst.meanSquare_eq hVaries
  have hLess : a < c := by
    have hOrder := hFirst.lt_iff hVaries 0 two_pos 1 one_lt_two
    norm_num [t, entry, restShape] at hOrder
    exact hOrder
  have hZero : b = 0 ∧ d = 0 := by
    have hConstant :
        Reals.IsConstant 2 fun i => t.entry i 1 := by
      intro i hI j hJ
      interval_cases i <;> interval_cases j <;>
        simp [t, entry, restShape]
    have hEach := hLast.zero hConstant
    exact ⟨hEach 0 two_pos, hEach 1 one_lt_two⟩
  have hC : c = 1 := by nlinarith
  have hA : a = -1 := by linarith
  rw [hA, hC, hZero.1, hZero.2]

end Tensor

end NeighbourInfo
