import Mathlib
import NeighbourInfo.Proofs.Fitting
import NeighbourInfo.Proofs.Kernel
import NeighbourInfo.Proofs.Scalar.Real

/-
  Columns in other units.

  Key definitions include:
    * `NeighbourInfo.Table.mapRows`
    * `NeighbourInfo.Norm.IsIsometry`
    * `NeighbourInfo.Units`
    * `NeighbourInfo.Units.rescaleRow`
    * `NeighbourInfo.Units.turnRow`

  A column in other units is multiplied by a scale that is not
  zero and shifted.  Standardising takes back the shift and
  the size of the scale, but not its sign: what is left are
  columns that may have been turned around, which no norm can
  tell from the former ones.  A constant column becomes zero
  in any units.

  This is proven by:
    * `NeighbourInfo.Observations.pointCounts_mapRows`
    * `NeighbourInfo.Reals.standardised_rescale`
    * `NeighbourInfo.Units.standardise_rescaled`
    * `NeighbourInfo.Units.isIsometry_turnRow`
-/

------------------------------------------------------------
-- Functions Of Rows
------------------------------------------------------------

namespace NeighbourInfo

namespace Table

variable {α : Type}

/- A function is applied to each row. -/
def mapRows
    (f : List α → List α)
    (t : Table α) :
    Table α :=
  ⟨t.width, t.rows.map f⟩

@[simp]
theorem size_mapRows
    (f : List α → List α)
    (t : Table α) :
    (t.mapRows f).size = t.size :=
  List.length_map _

theorem getD_rows_mapRows
    {f : List α → List α}
    (hNil : f [] = [])
    (t : Table α)
    (i : Nat) :
    (t.mapRows f).rows.getD i [] = f (t.rows.getD i []) := by
  rw [mapRows, List.getD_eq_getElem?_getD,
    List.getD_eq_getElem?_getD, List.getElem?_map]
  cases t.rows[i]? with
  | none => exact hNil.symm
  | some row => rfl

end Table

namespace Norm

variable {α : Type} [Scalar α]

/- The function of rows keeps all distances. -/
structure IsIsometry
    (f : List α → List α) :
    Prop where
  map_nil : f [] = []
  distance_eq :
    ∀ (norm : Norm) (p q : List α),
      norm.distance (f p) (f q) = norm.distance p q

end Norm

namespace Observations

variable {α : Type}

/- A function for each variable is applied to its rows. -/
def mapRows
    (f : Variable → List α → List α)
    (g : List α → List α)
    (data : Observations α) :
    Observations α :=
  ⟨data.x.mapRows (f .x), data.y.mapRows (f .y),
    data.z.mapRows g⟩

variable {f : Variable → List α → List α}
variable {g : List α → List α}

theorem table_mapRows
    (data : Observations α)
    (v : Variable) :
    (data.mapRows f g).table v =
      (data.table v).mapRows (f v) := by
  cases v with
  | x => rfl
  | y => rfl

theorem withTable_mapRows
    (data : Observations α)
    (t : Table α)
    (v : Variable) :
    (data.mapRows f g).withTable (t.mapRows (f v)) v =
      (data.withTable t v).mapRows f g := by
  cases v with
  | x => rfl
  | y => rfl

theorem size_mapRows
    (data : Observations α) :
    (data.mapRows f g).size = data.size :=
  data.x.size_mapRows (f .x)

section Isometries

variable [Scalar α]
variable
  (hF : ∀ v, Norm.IsIsometry (f v))
  (hG : Norm.IsIsometry g)
include hF hG

/- Rows that keep their distances keep all separations. -/
theorem separation_mapRows
    (data : Observations α)
    (norm : Norm)
    (i : Nat)
    (j : Nat) :
    (data.mapRows f g).separation norm i j =
      data.separation norm i j := by
  simp only [separation, mapRows,
    Table.getD_rows_mapRows (hF _).map_nil,
    Table.getD_rows_mapRows hG.map_nil, (hF _).distance_eq,
    hG.distance_eq]

/- So the same is counted at every point. -/
theorem pointCounts_mapRows
    (data : Observations α)
    (algorithm : Algorithm)
    (norm : Norm)
    (window : Nat)
    (k : Nat)
    (i : Nat) :
    (data.mapRows f g).pointCounts algorithm norm window k i =
      data.pointCounts algorithm norm window k i := by
  have hOthers :
      (data.mapRows f g).others norm window i =
        data.others norm window i := by
    rw [others, others, size_mapRows]
    apply List.map_congr_left
    intro j _
    exact separation_mapRows hF hG data norm i j
  unfold pointCounts
  rw [hOthers]

end Isometries

end Observations

end NeighbourInfo

------------------------------------------------------------
-- Units
------------------------------------------------------------

namespace NeighbourInfo

/- The sign of a number that is not zero. -/
noncomputable def Reals.sign
    (scale : ℝ) :
    ℝ :=
  scale / |scale|

theorem Reals.abs_sign
    {scale : ℝ}
    (hScale : scale ≠ 0) :
    |sign scale| = 1 := by
  rw [sign, abs_div, abs_abs, div_self (abs_ne_zero.mpr hScale)]

/-
  How the columns of a table are rescaled, each in its own
  way: by a factor that is not zero, and by a shift.
-/
structure Units where
  scale : Nat → ℝ
  shift : Nat → ℝ
  scale_ne_zero : ∀ j, scale j ≠ 0

namespace Units

/- The units of each of the two variables. -/
def ofBoth
    (first : Units)
    (second : Units) :
    Variable → Units
  | .x => first
  | .y => second

/- A row in other units. -/
def rescaleRow
    (u : Units)
    (row : List ℝ) :
    List ℝ :=
  row.mapIdx fun j a => u.scale j * a + u.shift j

/- A row of which some columns are turned around. -/
noncomputable def turnRow
    (u : Units)
    (row : List ℝ) :
    List ℝ :=
  row.mapIdx fun j a => Reals.sign (u.scale j) * a

end Units

end NeighbourInfo

------------------------------------------------------------
-- One Column
------------------------------------------------------------

namespace NeighbourInfo

namespace Reals

variable {column : List ℝ} {scale shift : ℝ}

/- The mean is rescaled like the column. -/
theorem mean_rescale
    (hSome : column ≠ [])
    (scale : ℝ)
    (shift : ℝ) :
    Scalar.mean (column.map fun a => scale * a + shift) =
      scale * Scalar.mean column + shift := by
  have hLength : (column.length : ℝ) ≠ 0 := by
    simpa using hSome
  rw [mean_eq, mean_eq, List.sum_map_add,
    List.sum_map_mul_left, List.map_const', List.sum_replicate,
    List.length_map, List.map_id', nsmul_eq_mul]
  field_simp

/- The deviation is multiplied by the size of the scale. -/
theorem deviation_rescale
    (hSome : column ≠ [])
    (scale : ℝ)
    (shift : ℝ) :
    Scalar.deviation (column.map fun a => scale * a + shift) =
      |scale| * Scalar.deviation column := by
  rw [deviation_eq, deviation_eq, mean_rescale hSome,
    List.map_map, List.length_map]
  have hSquares :
      ((fun a =>
          (a - (scale * Scalar.mean column + shift)) ^ 2) ∘
        fun a => scale * a + shift) =
        fun a =>
          scale ^ 2 * (a - Scalar.mean column) ^ 2 := by
    funext a
    simp only [Function.comp_apply]
    ring
  rw [hSquares, List.sum_map_mul_left, mul_div_assoc,
    Real.sqrt_mul (sq_nonneg scale), Real.sqrt_sq_eq_abs]

/- A column without deviation is constant. -/
theorem eq_mean_of_deviation
    (hNone : Scalar.deviation column = 0)
    {a : ℝ}
    (hMem : a ∈ column) :
    a = Scalar.mean column := by
  have hLength : (0 : ℝ) < column.length := by
    exact_mod_cast List.length_pos_of_mem hMem
  have hSquares :
      ∀ s ∈ column.map fun a => (a - Scalar.mean column) ^ 2,
        0 ≤ s :=
    List.forall_mem_map.mpr fun a _ => sq_nonneg _
  have hSum :
      (column.map fun a =>
        (a - Scalar.mean column) ^ 2).sum = 0 := by
    rw [deviation_eq,
      Real.sqrt_eq_zero
        (div_nonneg (List.sum_nonneg hSquares) hLength.le)]
      at hNone
    exact (div_eq_zero_iff.mp hNone).resolve_right hLength.ne'
  have hZero :=
    List.all_zero_of_le_zero_le_of_sum_eq_zero hSquares hSum
      (List.mem_map_of_mem hMem)
  exact sub_eq_zero.mp (pow_eq_zero_iff two_ne_zero |>.mp hZero)

/- A column has no deviation just if its entries coincide. -/
theorem deviation_eq_zero_iff :
    Scalar.deviation column = 0 ↔
      ∀ a ∈ column, ∀ b ∈ column, a = b := by
  constructor
  · intro hNone a hA b hB
    rw [eq_mean_of_deviation hNone hA,
      eq_mean_of_deviation hNone hB]
  · intro hSame
    have hCentre : ∀ a ∈ column, a = Scalar.mean column := by
      intro a hA
      have hLength : (column.length : ℝ) ≠ 0 := by
        exact_mod_cast (List.length_pos_of_mem hA).ne'
      have hSum : column.sum = column.length * a := by
        have hColumn :=
          List.eq_replicate_of_mem fun b hB => hSame b hB a hA
        conv_lhs => rw [hColumn]
        rw [List.sum_replicate, nsmul_eq_mul]
      rw [mean_eq, hSum, mul_div_cancel_left₀ a hLength]
    have hSquares :
        (column.map fun a =>
          (a - Scalar.mean column) ^ 2).sum = 0 := by
      refine List.sum_eq_zero (List.forall_mem_map.mpr ?_)
      intro a hA
      rw [← hCentre a hA, sub_self, zero_pow two_ne_zero]
    rw [deviation_eq, hSquares, zero_div, Real.sqrt_zero]

theorem deviation_nonneg
    (column : List ℝ) :
    0 ≤ Scalar.deviation column := by
  rw [deviation_eq]
  exact Real.sqrt_nonneg _

end Reals

end NeighbourInfo

namespace NeighbourInfo

namespace Reals

theorem spread_eq
    (column : List ℝ) :
    Table.spread column =
      if Scalar.deviation column = 0 then 1
      else Scalar.deviation column := by
  simp [Table.spread]

/-
  A standardised entry keeps its size and takes the sign of
  the scale.  If the column is constant both entries are zero.
-/
theorem standardised_rescale
    {column : List ℝ}
    {a scale : ℝ}
    (hMem : a ∈ column)
    (hScale : scale ≠ 0)
    (shift : ℝ) :
    let rescaled := column.map fun a => scale * a + shift
    (scale * a + shift - Scalar.mean rescaled) /
        Table.spread rescaled =
      sign scale *
        ((a - Scalar.mean column) / Table.spread column) := by
  intro rescaled
  have hSome : column ≠ [] := List.ne_nil_of_mem hMem
  have hSize : |scale| ≠ 0 := abs_ne_zero.mpr hScale
  have hCentred :
      scale * a + shift - Scalar.mean rescaled =
        scale * (a - Scalar.mean column) := by
    rw [mean_rescale hSome]
    ring
  rw [hCentred, spread_eq, spread_eq,
    deviation_rescale hSome]
  by_cases hConstant : Scalar.deviation column = 0
  · rw [← eq_mean_of_deviation hConstant hMem]
    simp
  · rw [if_neg hConstant,
      if_neg (mul_ne_zero hSize hConstant), sign]
    field_simp

end Reals

end NeighbourInfo

------------------------------------------------------------
-- Standardised Tables
------------------------------------------------------------

namespace NeighbourInfo

namespace Table

/- One column of a table. -/
def column
    {α : Type} [Zero α]
    (t : Table α)
    (j : Nat) :
    List α :=
  t.rows.map fun row => row.getD j 0

/- Each entry is standardised by the column it stands in. -/
theorem rows_standardise
    {α : Type} [Scalar α]
    {t : Table α}
    (hRectangular : t.IsRectangular) :
    t.standardise.rows =
      t.rows.map fun row =>
        row.mapIdx fun j a =>
          (a - Scalar.mean (t.column j)) /
            spread (t.column j) := by
  apply List.map_congr_left
  intro row hRow
  have hLength := hRectangular row hRow
  apply List.ext_getElem
  · simp [hLength]
  · intro j hLeft hRight
    simp [columns, column]

end Table

namespace Units

variable {t : Table ℝ}

private theorem column_rescaled
    (u : Units)
    (hRectangular : t.IsRectangular)
    {j : Nat}
    (hColumn : j < t.width) :
    (t.mapRows u.rescaleRow).column j =
      (t.column j).map fun a =>
        u.scale j * a + u.shift j := by
  simp only [Table.column, Table.mapRows, List.map_map]
  apply List.map_congr_left
  intro row hRow
  have hEntry : j < row.length := by
    rwa [hRectangular row hRow]
  simp [rescaleRow, hEntry]

/- Only the signs of the scales are left. -/
theorem standardise_rescaled
    (u : Units)
    (hRectangular : t.IsRectangular) :
    (t.mapRows u.rescaleRow).standardise =
      t.standardise.mapRows u.turnRow := by
  have hRectangular' :
      (t.mapRows u.rescaleRow).IsRectangular := by
    refine List.forall_mem_map.mpr ?_
    intro row hRow
    rw [rescaleRow, List.length_mapIdx]
    exact hRectangular row hRow
  have hRows :
      (t.mapRows u.rescaleRow).standardise.rows =
        t.standardise.rows.map u.turnRow := by
    rw [Table.rows_standardise hRectangular,
      Table.rows_standardise hRectangular', Table.mapRows,
      List.map_map, List.map_map]
    apply List.map_congr_left
    intro row hRow
    have hLength := hRectangular row hRow
    apply List.ext_getElem
    · simp [rescaleRow, turnRow]
    · intro j hLeft hRight
      have hEntry : j < row.length := by
        simpa [rescaleRow] using hLeft
      have hMem : row[j] ∈ t.column j := by
        refine List.mem_map.mpr ⟨row, hRow, ?_⟩
        simp [hEntry]
      have hColumn :=
        u.column_rescaled hRectangular (hLength ▸ hEntry)
      have hSame :=
        Reals.standardised_rescale hMem (u.scale_ne_zero j)
          (u.shift j)
      rw [Table.mapRows] at hColumn
      simp [rescaleRow, turnRow, hColumn, hSame]
  unfold Table.mapRows at hRows ⊢
  rw [← hRows]
  rfl

end Units

end NeighbourInfo

------------------------------------------------------------
-- Distances
------------------------------------------------------------

namespace NeighbourInfo

namespace Units

/- Entries of one column are compared as before. -/
theorem zipWith_turnRow
    {γ : Type}
    (u : Units)
    {compare : ℝ → ℝ → γ}
    (hKeeps :
      ∀ sign a b, |sign| = 1 →
        compare (sign * a) (sign * b) = compare a b)
    (p : List ℝ)
    (q : List ℝ) :
    List.zipWith compare (u.turnRow p) (u.turnRow q) =
      List.zipWith compare p q := by
  apply List.ext_getElem
  · simp [turnRow]
  · intro j hLeft hRight
    simp [turnRow,
      hKeeps _ _ _ (Reals.abs_sign (u.scale_ne_zero j))]

private theorem squaredDistance_turnRow
    (u : Units)
    (p : List ℝ)
    (q : List ℝ) :
    Norm.squaredDistance (u.turnRow p) (u.turnRow q) =
      Norm.squaredDistance p q := by
  unfold Norm.squaredDistance
  rw [u.zipWith_turnRow]
  intro sign a b hSign
  have hOne : sign * sign = 1 := by
    rw [← abs_mul_abs_self, hSign, one_mul]
  calc
    (sign * a - sign * b) * (sign * a - sign * b)
      = sign * sign * ((a - b) * (a - b)) := by ring
    _ = (a - b) * (a - b) := by rw [hOne, one_mul]

private theorem maximumDistance_turnRow
    (u : Units)
    (p : List ℝ)
    (q : List ℝ) :
    Norm.maximumDistance (u.turnRow p) (u.turnRow q) =
      Norm.maximumDistance p q := by
  unfold Norm.maximumDistance
  rw [u.zipWith_turnRow]
  intro sign a b hSign
  rw [Reals.abs_eq, Reals.abs_eq]
  calc
    |sign * a - sign * b|
      = |sign| * |a - b| := by rw [← mul_sub, abs_mul]
    _ = |a - b| := by rw [hSign, one_mul]

/- No norm tells the two directions of a column apart. -/
theorem isIsometry_turnRow
    (u : Units) :
    Norm.IsIsometry u.turnRow where
  map_nil := rfl
  distance_eq norm p q := by
    cases norm with
    | maximum => exact u.maximumDistance_turnRow p q
    | euclidean =>
        exact
          congrArg Scalar.sqrt (u.squaredDistance_turnRow p q)
    | euclideanSquared => exact u.squaredDistance_turnRow p q

end Units

end NeighbourInfo
