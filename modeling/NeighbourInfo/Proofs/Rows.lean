import NeighbourInfo.Tensor.Rows
import NeighbourInfo.Proofs.Reading

/-
  Arrays as tables of their rows.

  Key definitions include:
    * `NeighbourInfo.Tensor.HasRows`
    * `NeighbourInfo.Tensor.rows`
    * `NeighbourInfo.Tensor.entry`

  An array whose entries fill its shape is nothing but its
  rows one after another.  So what an operation on its rows
  makes of it is told by the rows of the result, and the entry
  of a row in some column has its place among all entries.

  This is proven by:
    * `NeighbourInfo.Table.flatten_cut`
    * `NeighbourInfo.Tensor.HasRows.rowTable_eq`
    * `NeighbourInfo.Tensor.rows_toTensor`
    * `NeighbourInfo.Tensor.HasRows.entry_eq`
-/

------------------------------------------------------------
-- Cutting
------------------------------------------------------------

namespace NeighbourInfo

namespace Table

variable {α : Type} {width : Nat}

/- Rows that take up all entries can be joined again. -/
theorem flatten_cut
    {count : Nat}
    {entries : List α}
    (hEntries : entries.length = count * width) :
    (cut width entries count).flatten = entries := by
  induction count generalizing entries with
  | zero => simpa [cut] using hEntries
  | succ count ih =>
      rw [Nat.succ_mul] at hEntries
      have hRest :
          (entries.drop width).length = count * width := by
        simp [hEntries]
      rw [cut, List.flatten_cons, ih hRest,
        List.take_append_drop]

/- The place that an entry of a row had before the cut. -/
theorem getD_cut
    {count : Nat}
    (entries : List α)
    {i : Nat}
    (hRow : i < count)
    {j : Nat}
    (hColumn : j < width)
    (fallback : α) :
    ((cut width entries count).getD i []).getD j fallback =
      entries.getD (i * width + j) fallback := by
  induction count generalizing entries i with
  | zero => exact absurd hRow (Nat.not_lt_zero i)
  | succ count ih =>
      cases i with
      | zero => simp [cut, List.getD_eq_getElem?_getD, hColumn]
      | succ i =>
          have hPlace :
              (i + 1) * width + j =
                width + (i * width + j) := by
            rw [Nat.succ_mul]
            omega
          have hRest :=
            ih (entries.drop width) (Nat.lt_of_succ_lt_succ hRow)
          rw [cut, List.getD_cons_succ, hRest, hPlace]
          simp [List.getD_eq_getElem?_getD]

/- Entries may as well be changed before the cut. -/
theorem cut_map
    {β : Type}
    (f : α → β)
    (entries : List α)
    (count : Nat) :
    cut width (entries.map f) count =
      (cut width entries count).map (List.map f) := by
  induction count generalizing entries with
  | zero => rfl
  | succ count ih => simp [cut, ← ih, List.map_take]

end Table

end NeighbourInfo

------------------------------------------------------------
-- Rows
------------------------------------------------------------

namespace NeighbourInfo

namespace Tensor

variable {α : Type}

/-
  An array with so many rows, each of which has the remaining
  axes.  There is at least one of these, and the entries fill
  the shape.
-/
structure HasRows
    (n : Nat)
    (rest : List Nat)
    (t : Tensor α) :
    Prop where
  shape_eq : t.shape = n :: rest
  rest_ne_nil : rest ≠ []
  length_entries : t.entries.length = n * rest.prod

/- The rows of an array, each laid out along one axis. -/
def rows
    (t : Tensor α) :
    List (List α) :=
  Table.cut t.restShape.prod t.entries (t.shape.headD 0)

/- The entry of a row in a column; the rows come in order. -/
def entry
    [Zero α]
    (t : Tensor α)
    (i : Nat)
    (j : Nat) :
    α :=
  t.entries.getD (i * t.restShape.prod + j) 0

namespace HasRows

variable {n : Nat} {rest : List Nat} {t : Tensor α}
variable (hRows : t.HasRows n rest)
include hRows

theorem restShape_eq :
    t.restShape = rest := by
  simp [restShape, hRows.shape_eq]

theorem two_le_axes :
    2 ≤ t.axes := by
  have hRest := List.length_pos_iff.mpr hRows.rest_ne_nil
  rw [axes, hRows.shape_eq, List.length_cons]
  omega

theorem rows_eq :
    t.rows = Table.cut rest.prod t.entries n := by
  rw [rows, hRows.restShape_eq, hRows.shape_eq]
  rfl

theorem length_rows :
    t.rows.length = n := by
  simp [hRows.rows_eq]

theorem rows_ne_nil
    (hSome : 1 ≤ n) :
    t.rows ≠ [] := by
  rw [← List.length_pos_iff, hRows.length_rows]
  exact hSome

theorem length_of_mem_rows :
    ∀ row ∈ t.rows, row.length = rest.prod := by
  rw [hRows.rows_eq]
  exact Table.length_of_mem_cut hRows.length_entries.ge

/- The rows make up the table that operations work on. -/
theorem rowTable_eq :
    t.rowTable = .ok ⟨rest.prod, t.rows⟩ := by
  rw [rowTable, Table.alongFirstAxis?, hRows.shape_eq,
    hRows.rows_eq, List.prod_eq_foldl]

theorem isRectangular :
    (⟨rest.prod, t.rows⟩ : Table α).IsRectangular :=
  hRows.length_of_mem_rows

/- Put together again the rows are the array. -/
theorem toTensor_rows
    (width : Nat) :
    (⟨width, t.rows⟩ : Table α).toTensor rest = t := by
  have hEntries : t.rows.flatten = t.entries := by
    rw [hRows.rows_eq]
    exact Table.flatten_cut hRows.length_entries
  rw [Table.toTensor, Table.size, hRows.length_rows, hEntries,
    ← hRows.shape_eq]

/- Each entry stands in its row. -/
theorem entry_eq
    [Zero α]
    {i : Nat}
    (hRow : i < n)
    {j : Nat}
    (hColumn : j < rest.prod) :
    t.entry i j = (t.rows.getD i []).getD j 0 := by
  rw [entry, hRows.restShape_eq, hRows.rows_eq,
    Table.getD_cut t.entries hRow hColumn]

end HasRows

variable {rest : List Nat} {table : Table α}

/- Rows of one length make an array that has them. -/
theorem hasRows_toTensor
    (hRest : rest ≠ [])
    (hEach : ∀ row ∈ table.rows, row.length = rest.prod) :
    (table.toTensor rest).HasRows table.size rest := by
  refine ⟨rfl, hRest, ?_⟩
  rw [Table.toTensor, List.length_flatten,
    List.map_eq_replicate_iff.mpr hEach, List.sum_replicate]
  rfl

theorem rows_toTensor
    (hRest : rest ≠ [])
    (hEach : ∀ row ∈ table.rows, row.length = rest.prod) :
    (table.toTensor rest).rows = table.rows := by
  rw [(hasRows_toTensor hRest hEach).rows_eq]
  exact Table.cut_flatten hEach

end Tensor

end NeighbourInfo
