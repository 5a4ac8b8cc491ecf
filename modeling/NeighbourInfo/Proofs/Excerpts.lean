import NeighbourInfo.Proofs.Retaining

/-
  Where the retained rows stood among all rows given.

  Key definitions include:
    * `NeighbourInfo.Mask.keeping`
    * `NeighbourInfo.Excerpt`
    * `NeighbourInfo.Excerpt.whole`
    * `NeighbourInfo.Excerpt.positions`

  Of several sets of observations, each of which drops some of
  its rows, the rows that are left form one set.  It has the
  rows at certain positions among all rows, dropped ones too.
  The positions increase from row to row, so that two rows are
  never further apart in what is left than they were before.

  This is proven by:
    * `NeighbourInfo.natAbs_sub_le_of_pairwise`
    * `NeighbourInfo.Observations.exists_keeping_of_masked`
    * `NeighbourInfo.Excerpt.pairwise_positions`
    * `NeighbourInfo.Excerpt.lt_size_whole`
    * `NeighbourInfo.Excerpt.concat_kept`
-/

------------------------------------------------------------
-- Increasing Numbers
------------------------------------------------------------

namespace NeighbourInfo

variable {places : List Nat}

/- Each place is at least one more than the one before. -/
private theorem add_le_of_pairwise
    (hSorted : places.Pairwise (· < ·))
    {i m p q : Nat}
    (hFirst : places[i]? = some p)
    (hSecond : places[i + m]? = some q) :
    p + m ≤ q := by
  induction m generalizing q with
  | zero =>
      rw [Nat.add_zero, hFirst] at hSecond
      cases hSecond
      exact le_rfl
  | succ m ih =>
      rcases List.getElem?_eq_some_iff.mp hSecond with
        ⟨hLast, rfl⟩
      have hBefore : i + m < places.length := by omega
      have hStep : places[i + m] < places[i + (m + 1)] :=
        List.pairwise_iff_getElem.mp hSorted (i + m)
          (i + (m + 1)) hBefore hLast (by omega)
      have hUpTo := ih (List.getElem?_eq_getElem hBefore)
      omega

/- Increasing numbers are as far apart as their places. -/
theorem natAbs_sub_le_of_pairwise
    (hSorted : places.Pairwise (· < ·))
    {a b p q : Nat}
    (hFirst : places[a]? = some p)
    (hSecond : places[b]? = some q) :
    ((a : Int) - b).natAbs ≤ ((p : Int) - q).natAbs := by
  rcases Nat.le_total a b with hLe | hLe
  · rw [← Nat.add_sub_cancel' hLe] at hSecond
    have hUpTo := add_le_of_pairwise hSorted hFirst hSecond
    omega
  · rw [← Nat.add_sub_cancel' hLe] at hFirst
    have hUpTo := add_le_of_pairwise hSorted hSecond hFirst
    omega

end NeighbourInfo

------------------------------------------------------------
-- Masks Of Any Kind
------------------------------------------------------------

namespace NeighbourInfo

variable {α : Type} [Scalar α] [Literal α]

/-
  Which rows a mask keeps: all of them without a mask, else
  those whose entry is above zero as it is read.
-/
def Mask.keeping
    (mask : Value α) :
    Except (Error α) (Nat → Bool) :=
  match mask with
  | .null => .ok fun _ => true
  | mask => do
      let mask ← ofValue mask
      return fun i => 0 < mask.getD i 0

/- Whatever the mask is, the rows that it keeps are picked. -/
theorem Observations.exists_keeping_of_masked
    {data kept : Observations α}
    (hAligned : data.IsAligned)
    {mask : Value α}
    (hOk : data.masked mask = .ok kept) :
    ∃ keeps,
      Mask.keeping mask = .ok keeps ∧
        kept =
          data.pick ((List.range data.size).filter keeps) := by
  unfold masked at hOk
  split at hOk
  · cases hOk
    refine ⟨fun _ => true, rfl, ?_⟩
    rw [List.filter_eq_self.mpr fun _ _ => rfl,
      pick_range hAligned]
  · next hGiven =>
      rcases exists_of_bind_eq_ok hOk with ⟨m, hMask, hRetain⟩
      refine ⟨fun i => 0 < m.getD i 0, ?_, ?_⟩
      · unfold Mask.keeping
        split
        · exact absurd rfl hGiven
        · rw [hMask]
          rfl
      · exact (eq_pick_of_retain hAligned hRetain).2

end NeighbourInfo

------------------------------------------------------------
-- Excerpts
------------------------------------------------------------

namespace NeighbourInfo

/- Observations, and which of their rows are retained. -/
structure Excerpt (α : Type) where
  data : Observations α
  keeps : Nat → Bool

namespace Excerpt

variable {α : Type}

/- The places of the rows that are retained. -/
def places
    (e : Excerpt α) :
    List Nat :=
  (List.range e.data.size).filter e.keeps

/- The rows that are retained. -/
def kept
    (e : Excerpt α) :
    Observations α :=
  e.data.pick e.places

/- All rows, whether they are retained or not. -/
def whole
    (excerpts : List (Excerpt α)) :
    Observations α :=
  .concat (excerpts.map data)

/-
  The positions of the retained rows among all rows, where the
  first row has the position `start`.
-/
def positions
    (start : Nat) :
    List (Excerpt α) → List Nat
  | [] => []
  | e :: excerpts =>
      e.places.map (start + ·) ++
        positions (start + e.data.size) excerpts

theorem mem_places_iff
    {e : Excerpt α}
    {i : Nat} :
    i ∈ e.places ↔ i < e.data.size ∧ e.keeps i = true := by
  simp [places]

private theorem size_whole
    (excerpts : List (Excerpt α)) :
    (whole excerpts).size =
      (excerpts.map fun e => e.data.size).sum := by
  unfold whole Observations.concat Observations.size
  rw [Table.size_concat, List.map_map, List.map_map]
  rfl

/- Positions are counted on from set to set. -/
theorem bounds_of_mem_positions
    {start p : Nat}
    {excerpts : List (Excerpt α)}
    (hPosition : p ∈ positions start excerpts) :
    start ≤ p ∧ p < start + (whole excerpts).size := by
  rw [size_whole]
  induction excerpts generalizing start with
  | nil => cases hPosition
  | cons e excerpts ih =>
      rw [List.map_cons, List.sum_cons]
      rcases List.mem_append.mp hPosition with hFirst | hRest
      · rcases List.mem_map.mp hFirst with ⟨i, hI, rfl⟩
        have hRow := (mem_places_iff.mp hI).1
        omega
      · have hBounds := ih hRest
        omega

theorem lt_size_whole
    {p : Nat}
    {excerpts : List (Excerpt α)}
    (hPosition : p ∈ positions 0 excerpts) :
    p < (whole excerpts).size := by
  have hBounds := bounds_of_mem_positions hPosition
  omega

/- Dropping rows does not change the order of the others. -/
theorem pairwise_positions
    (start : Nat)
    (excerpts : List (Excerpt α)) :
    (positions start excerpts).Pairwise (· < ·) := by
  induction excerpts generalizing start with
  | nil => exact .nil
  | cons e excerpts ih =>
      refine List.pairwise_append.mpr ⟨?_, ih _, ?_⟩
      · rw [List.pairwise_map]
        have hPlaces : e.places.Pairwise (· < ·) :=
          List.pairwise_lt_range.filter _
        exact hPlaces.imp fun hLt => Nat.add_lt_add_left hLt _
      · intro p hFirst q hRest
        rcases List.mem_map.mp hFirst with ⟨i, hI, rfl⟩
        have hRow := (mem_places_iff.mp hI).1
        have hBounds := bounds_of_mem_positions hRest
        omega

end Excerpt

end NeighbourInfo

------------------------------------------------------------
-- Putting Retained Rows Together
------------------------------------------------------------

namespace NeighbourInfo

namespace Excerpt

variable {α β : Type}

/-
  What stands at the positions are the retained items of each
  set, whatever came before the first of them.
-/
private theorem map_positions
    {items : Excerpt α → List β}
    {excerpts : List (Excerpt α)}
    (hLengths :
      ∀ e ∈ excerpts, (items e).length = e.data.size)
    (before : List β)
    (b : β) :
    (positions before.length excerpts).map (fun p =>
        (before ++ excerpts.flatMap items).getD p b) =
      excerpts.flatMap fun e =>
        e.places.map fun i => (items e).getD i b := by
  induction excerpts generalizing before with
  | nil => rfl
  | cons e excerpts ih =>
      have hLength := hLengths e List.mem_cons_self
      have hRest :=
        ih (List.forall_mem_cons.mp hLengths).2
          (before ++ items e)
      rw [List.length_append, hLength, List.append_assoc]
        at hRest
      rw [positions, List.map_append, List.flatMap_cons,
        List.flatMap_cons, hRest, List.map_map]
      congr 1
      apply List.map_congr_left
      intro i hI
      have hRow : i < (items e).length := by
        rw [hLength]
        exact (mem_places_iff.mp hI).1
      show (before ++ (items e ++ _)).getD (_ + i) b = _
      rw [List.getD_append_right _ _ _ _ (Nat.le_add_right _ _),
        Nat.add_sub_cancel_left, List.getD_append _ _ _ _ hRow]

/- One table of what is left has the rows at the positions. -/
theorem concat_part
    (part : Observations α → Table α)
    {excerpts : List (Excerpt α)}
    (hSizes :
      ∀ e ∈ excerpts, (part e.data).size = e.data.size)
    (width : Nat) :
    Table.concat width
        (excerpts.map fun e => (part e.data).pick e.places) =
      (Table.concat width
        (excerpts.map fun e => part e.data)).pick
        (positions 0 excerpts) := by
  have hRows := map_positions hSizes [] []
  unfold Table.concat Table.pick
  rw [List.flatMap_map, List.flatMap_map]
  exact congrArg (Table.mk width) hRows.symm

/- What is left are the rows at the positions. -/
theorem concat_kept
    {excerpts : List (Excerpt α)}
    (hAligned : ∀ e ∈ excerpts, e.data.IsAligned) :
    Observations.concat (excerpts.map kept) =
      (whole excerpts).pick (positions 0 excerpts) := by
  have hEach (part : Observations α → Table α)
      (hPart : ∀ e : Excerpt α,
        part e.kept = (part e.data).pick e.places) :
      (excerpts.map kept).map part =
        excerpts.map fun e => (part e.data).pick e.places := by
    rw [List.map_map]
    exact List.map_congr_left fun e _ => hPart e
  unfold whole Observations.concat Observations.pick
  dsimp only
  rw [hEach _ fun _ => rfl, hEach _ fun _ => rfl,
    hEach _ fun _ => rfl,
    concat_part (·.x) fun _ _ => rfl,
    concat_part (·.y) fun e hE => (hAligned e hE).1,
    concat_part (·.z) fun e hE => (hAligned e hE).2]
  simp only [List.map_map, List.head?_map, Option.map_map]
  rfl

end Excerpt

end NeighbourInfo
