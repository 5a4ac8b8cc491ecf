import NeighbourInfo.Proofs.Rows
import NeighbourInfo.Proofs.Session.Significance

/-
  Extracting rows again from rows that were extracted.

  Key definitions include:
    * `NeighbourInfo.Indices.item`
    * `NeighbourInfo.Indices.compose`
    * `NeighbourInfo.Indices.IsInverse`
    * `NeighbourInfo.Tensor.picked`

  A list of indices is itself read at indices, from the front
  or from the back.  To pick rows and then to pick some of
  what was picked is to pick once, by the list that was read
  so.  A permutation loses no row and repeats none, and its
  inverse brings every row back to where it was.

  This is proven by:
    * `NeighbourInfo.Indices.compose_inverse`
    * `NeighbourInfo.Tensor.HasRows.picked_picked`
    * `NeighbourInfo.Tensor.HasRows.rows_picked_perm`
    * `NeighbourInfo.Tensor.extract_composes`
-/

------------------------------------------------------------
-- Lists Of Indices
------------------------------------------------------------

namespace NeighbourInfo

/- An index within the bounds stands for one of the rows. -/
theorem Table.IsWithin.place_lt
    {n : Nat}
    {index : Int}
    (hWithin : IsWithin n index) :
    (index % n).toNat < n :=
  position?_lt (position?_eq hWithin)

namespace Indices

/- A list of indices as a caller gives it. -/
def value
    {α : Type}
    (p : List Int) :
    Value α :=
  .list (p.map .whole)

/- The entry of a list at an index from either end. -/
def item
    (p : List Int)
    (j : Int) :
    Int :=
  p.getD (j % p.length).toNat 0

/- A list read at the indices of another one. -/
def compose
    (p : List Int)
    (q : List Int) :
    List Int :=
  q.map (item p)

/- Each entry of a list, as an index, has its own place. -/
structure IsInverse
    (p : List Int)
    (inverse : List Int) :
    Prop where
  length_eq : inverse.length = p.length
  item_item :
    ∀ i : Nat, i < p.length → item inverse (item p i) = i

/- The places at which the numbers from zero on are found. -/
def inverse
    (p : List Int) :
    List Int :=
  (List.range p.length).map fun i : Nat =>
    (p.idxOf (i : Int) : Int)

variable {p : List Int}

theorem item_natCast
    {i : Nat}
    (hBound : i < p.length) :
    item p i = p[i] := by
  have hPlace : ((i : Int) % p.length).toNat = i := by
    rw [Int.emod_eq_of_lt (by omega) (by omega),
      Int.toNat_natCast]
  rw [item, hPlace, List.getD_eq_getElem _ _ hBound]

/- Within the bounds every item is one of the entries. -/
theorem item_mem
    {j : Int}
    (hWithin : Table.IsWithin p.length j) :
    item p j ∈ p := by
  have hPlace := hWithin.place_lt
  rw [item, List.getD_eq_getElem _ _ hPlace]
  exact List.getElem_mem hPlace

/- Read from its first entry to its last a list is itself. -/
theorem compose_identity
    (p : List Int) :
    compose p (Chance.identity p.length) = p := by
  apply List.ext_getElem
  · simp [compose, Chance.identity]
  · intro i hLeft hRight
    simp only [compose, Chance.identity, List.getElem_map,
      List.getElem_range]
    exact item_natCast hRight

end Indices

end NeighbourInfo

------------------------------------------------------------
-- Permutations
------------------------------------------------------------

namespace NeighbourInfo

namespace Indices

variable {n : Nat} {p : List Int}
variable (hPerm : p.Perm (Chance.identity n))
include hPerm

/- Every permutation has an inverse. -/
theorem isInverse_inverse :
    IsInverse p (inverse p) := by
  have hLength : (inverse p).length = p.length := by
    rw [inverse, List.length_map, List.length_range]
  refine ⟨hLength, ?_⟩
  intro i hI
  have hBounds :=
    (Chance.mem_iff_of_perm hPerm).mp (List.getElem_mem hI)
  obtain ⟨j, hJ⟩ := Int.eq_ofNat_of_zero_le hBounds.1
  have hPlace : j < (inverse p).length := by
    rw [hLength, Chance.length_of_perm hPerm]
    omega
  calc
    item (inverse p) (item p i)
      = item (inverse p) j := by rw [item_natCast hI, hJ]
    _ = (inverse p)[j] := item_natCast hPlace
    _ = (p.idxOf (j : Int) : Int) := by simp [inverse]
    _ = (p.idxOf p[i] : Int) := by rw [hJ]
    _ = i := by
        rw [(Chance.nodup_of_perm hPerm).idxOf_getElem i hI]

section Inverse

variable {inverse : List Int}
variable (hInverse : IsInverse p inverse)
include hInverse

theorem length_inverse :
    inverse.length = n :=
  hInverse.length_eq.trans (Chance.length_of_perm hPerm)

/- An inverse tells the place of each number below `n`. -/
theorem exists_item_inverse
    {i : Int}
    (hI : i ∈ Chance.identity n) :
    ∃ k : Nat, k < n ∧ item inverse i = k ∧ item p k = i := by
  obtain ⟨k, hK, hEntry⟩ :=
    List.getElem_of_mem (hPerm.mem_iff.mpr hI)
  have hItem : item p k = i := by rw [item_natCast hK, hEntry]
  refine ⟨k, Chance.length_of_perm hPerm ▸ hK, ?_, hItem⟩
  rw [← hInverse.item_item k hK, hItem]

theorem isWithin_inverse :
    ∀ j ∈ inverse, Table.IsWithin p.length j := by
  intro j hJ
  rw [← compose_identity inverse,
    length_inverse hPerm hInverse] at hJ
  obtain ⟨i, hI, rfl⟩ := List.mem_map.mp hJ
  obtain ⟨k, hK, hPlace, -⟩ :=
    exists_item_inverse hPerm hInverse hI
  rw [hPlace, Chance.length_of_perm hPerm]
  exact ⟨by omega, by omega⟩

/- Read at its inverse a permutation is the identity. -/
theorem compose_inverse :
    compose p inverse = Chance.identity n := by
  rw [← compose_identity inverse,
    length_inverse hPerm hInverse, compose, compose,
    List.map_map]
  refine (List.map_congr_left ?_).trans (List.map_id _)
  intro i hI
  obtain ⟨k, -, hPlace, hItem⟩ :=
    exists_item_inverse hPerm hInverse hI
  rw [Function.comp_apply, hPlace, hItem]
  rfl

end Inverse

end Indices

end NeighbourInfo

------------------------------------------------------------
-- Picked Rows
------------------------------------------------------------

namespace NeighbourInfo

namespace Tensor

variable {α : Type}

/- The row at an index from either end. -/
def row
    (t : Tensor α)
    (index : Int) :
    List α :=
  t.rows.getD (index % t.rows.length).toNat []

/- An array of the rows at some indices. -/
def picked
    (p : List Int)
    (t : Tensor α) :
    Tensor α :=
  (⟨t.restShape.prod, p.map t.row⟩ : Table α).toTensor
    t.restShape

namespace HasRows

variable {n : Nat} {rest : List Nat} {t : Tensor α}
variable (hRows : t.HasRows n rest)
include hRows

theorem picked_eq
    (p : List Int) :
    t.picked p =
      (⟨rest.prod, p.map t.row⟩ : Table α).toTensor rest := by
  rw [Tensor.picked, hRows.restShape_eq]

private theorem length_row
    {index : Int}
    (hWithin : Table.IsWithin n index) :
    (t.row index).length = rest.prod := by
  have hPlace := hWithin.place_lt
  rw [← hRows.length_rows] at hPlace
  rw [Tensor.row, List.getD_eq_getElem _ _ hPlace]
  exact hRows.length_of_mem_rows _ (List.getElem_mem hPlace)

section Within

variable {p : List Int}
variable (hWithin : ∀ i ∈ p, Table.IsWithin n i)
include hWithin

theorem length_of_mem_map_row :
    ∀ row ∈ p.map t.row, row.length = rest.prod := by
  refine List.forall_mem_map.mpr ?_
  intro i hI
  exact hRows.length_row (hWithin i hI)

/- What is picked has as many rows as there are indices. -/
theorem picked :
    (t.picked p).HasRows p.length rest := by
  let table : Table α := ⟨rest.prod, p.map t.row⟩
  have hEach : ∀ row ∈ table.rows, row.length = rest.prod :=
    hRows.length_of_mem_map_row hWithin
  have hPicked := hasRows_toTensor hRows.rest_ne_nil hEach
  rw [Table.size, List.length_map] at hPicked
  rwa [hRows.picked_eq]

theorem rows_picked :
    (t.picked p).rows = p.map t.row := by
  rw [hRows.picked_eq]
  exact
    rows_toTensor hRows.rest_ne_nil
      (hRows.length_of_mem_map_row hWithin)

/- The rows of what was picked are rows of the array. -/
private theorem row_picked
    {j : Int}
    (hPlace : Table.IsWithin p.length j) :
    (t.picked p).row j = t.row (Indices.item p j) := by
  have hPosition := hPlace.place_lt
  rw [Tensor.row, hRows.rows_picked hWithin, List.length_map,
    Indices.item, List.getD_eq_getElem _ _ hPosition,
    List.getD_eq_getElem _ _ (by simpa using hPosition),
    List.getElem_map]

/- To pick twice is to pick once. -/
theorem picked_picked
    {q : List Int}
    (hPlaces : ∀ j ∈ q, Table.IsWithin p.length j) :
    (t.picked p).picked q =
      t.picked (Indices.compose p q) := by
  have hEach :
      q.map (t.picked p).row =
        (Indices.compose p q).map t.row := by
    rw [Indices.compose, List.map_map]
    apply List.map_congr_left
    intro j hJ
    exact hRows.row_picked hWithin (hPlaces j hJ)
  rw [(hRows.picked hWithin).picked_eq q, hEach,
    ← hRows.picked_eq]

end Within

/- All rows in their order are what there was. -/
theorem map_row_identity :
    (Chance.identity n).map t.row = t.rows := by
  rw [Chance.identity, List.map_map, ← hRows.length_rows]
  exact Table.map_row_range ⟨rest.prod, t.rows⟩

private theorem picked_identity :
    t.picked (Chance.identity n) = t := by
  rw [hRows.picked_eq, hRows.map_row_identity,
    hRows.toTensor_rows]

variable {p : List Int}
variable (hPerm : p.Perm (Chance.identity n))
include hPerm

/- No row is lost or repeated. -/
theorem rows_picked_perm :
    (t.picked p).rows.Perm t.rows := by
  rw [hRows.rows_picked (Chance.isWithin_of_perm hPerm),
    ← hRows.map_row_identity]
  exact hPerm.map t.row

/- Each row is brought back to where it was. -/
theorem picked_inverse
    {inverse : List Int}
    (hInverse : Indices.IsInverse p inverse) :
    (t.picked p).picked inverse = t := by
  rw [hRows.picked_picked (Chance.isWithin_of_perm hPerm)
      (Indices.isWithin_inverse hPerm hInverse),
    Indices.compose_inverse hPerm hInverse,
    hRows.picked_identity]

end HasRows

end Tensor

end NeighbourInfo

------------------------------------------------------------
-- Extracting
------------------------------------------------------------

namespace NeighbourInfo

namespace Tensor

variable {α : Type}

/- An index of rows that are counted by a word is a word. -/
private theorem isIndex_of_isWithin
    {n : Nat}
    (hSize : n < 2 ^ 63)
    {index : Int}
    (hWithin : Table.IsWithin n index) :
    IsIndex index := by
  unfold Table.IsWithin at hWithin
  unfold IsIndex
  omega

namespace HasRows

variable {n : Nat} {rest : List Nat} {t : Tensor α}
variable (hRows : t.HasRows n rest)
include hRows

/- Rows are gathered unless an index is out of bounds. -/
private theorem gather_eq
    (p : List Int) :
    t.gather p =
      unlessRefused (p.findSome? (Table.outside? n))
        (t.picked p) := by
  have hAxes := hRows.two_le_axes
  have hNotFlat : ¬ t.axes < 2 := by omega
  have hGather :=
    Table.gather_eq_unlessRefused
      (⟨rest.prod, t.rows⟩ : Table α) p
  rw [Table.size, hRows.length_rows] at hGather
  unfold Tensor.gather
  simp only [if_neg hNotFlat, hRows.rowTable_eq,
    hRows.restShape_eq]
  change
    ((⟨rest.prod, t.rows⟩ : Table α).gather p).map
        (fun gathered => gathered.toTensor rest) =
      _
  rw [hGather, map_unlessRefused, hRows.picked_eq]
  rfl

variable [Scalar α] [Literal α] {p : List Int}

/- An index that is no word is looked for before all others. -/
theorem extract_eq
    (p : List Int) :
    t.extract (Indices.value p) =
      unlessRefused
        ((p.findSome? tooLarge?).or
          (p.findSome? (Table.outside? n)))
        (t.picked p) := by
  rw [Tensor.extract, Indices.value, indices_whole]
  cases p.findSome? (tooLarge? (α := α)) with
  | some e => rfl
  | none => exact hRows.gather_eq p

theorem extract_of_within
    (hSize : n < 2 ^ 63)
    (hWithin : ∀ i ∈ p, Table.IsWithin n i) :
    t.extract (Indices.value p) = .ok (t.picked p) := by
  have hWords : ∀ i ∈ p, IsIndex i := fun i hI =>
    isIndex_of_isWithin hSize (hWithin i hI)
  rw [hRows.extract_eq, findSome?_tooLarge_eq_none hWords,
    Table.findSome?_outside_eq_none hWithin]
  rfl

theorem extract_of_tooLarge
    (hLarge : ∃ i ∈ p, ¬ IsIndex i) :
    t.extract (Indices.value p) = .error .tooLarge := by
  rw [hRows.extract_eq, findSome?_tooLarge_eq_some hLarge]
  rfl

theorem extract_of_outside
    {before after : List Int}
    {index : Int}
    (hWords : ∀ i ∈ before ++ index :: after, IsIndex i)
    (hBefore : ∀ i ∈ before, Table.IsWithin n i)
    (hOutside : ¬ Table.IsWithin n index) :
    t.extract (Indices.value (before ++ index :: after)) =
      .error (.outOfBounds index n) := by
  have hWord : IsIndex index := hWords index (by simp)
  rw [hRows.extract_eq, findSome?_tooLarge_eq_none hWords,
    Table.findSome?_outside_eq_some hBefore hOutside hWord]
  rfl

end HasRows

end Tensor

end NeighbourInfo

------------------------------------------------------------
-- Extracting Twice
------------------------------------------------------------

namespace NeighbourInfo

namespace Tensor

variable {α : Type} [Scalar α] [Literal α]

/-
  What comes of extracting rows, of which there are as many as
  a word can count.  To extract twice is to extract once, by
  the first list read at the second one.  By a permutation the
  rows are rearranged, and its inverse gives back the array.
  An index that is no word is refused before any other one,
  and then the first that is out of bounds.  Whatever is drawn
  from a supply of permutations rearranges the rows.
-/
theorem extract_composes
    {t : Tensor α}
    {n : Nat}
    {rest : List Nat}
    (hRows : t.HasRows n rest)
    (hSize : n < 2 ^ 63) :
    (∀ p q : List Int,
      p.length < 2 ^ 63 →
      (∀ i ∈ p, Table.IsWithin n i) →
      (∀ j ∈ q, Table.IsWithin p.length j) →
        ∃ first second,
          t.extract (Indices.value p) = .ok first ∧
          first.rows = p.map t.row ∧
          first.extract (Indices.value q) = .ok second ∧
          second.rows = (Indices.compose p q).map t.row ∧
          t.extract
              (Indices.value (Indices.compose p q)) =
            .ok second) ∧
    (∀ p : List Int,
      p.Perm (Chance.identity n) →
        ∃ gathered,
          t.extract (Indices.value p) = .ok gathered ∧
          gathered.rows = p.map t.row ∧
          gathered.rows.Perm t.rows ∧
          Indices.IsInverse p (Indices.inverse p) ∧
          ∀ inverse,
            Indices.IsInverse p inverse →
              gathered.extract (Indices.value inverse) =
                .ok t) ∧
    (∀ p : List Int,
      (∃ i ∈ p, ¬ IsIndex i) →
        t.extract (Indices.value p) = .error .tooLarge) ∧
    (∀ (before after : List Int) (index : Int),
      (∀ i ∈ before ++ index :: after, IsIndex i) →
      (∀ i ∈ before, Table.IsWithin n i) →
      ¬ Table.IsWithin n index →
        t.extract
            (Indices.value (before ++ index :: after)) =
          .error (.outOfBounds index n)) ∧
    ∀ c : Chance α, c.Permutes n →
      ∀ count : Int,
        (∀ e,
          checkSizes c.room [count, n] = .error e →
            c.permutations? n count = .error e) ∧
        (checkSizes (α := α) c.room [count, n] = .ok () →
          ∃ drawn c',
            c.permutations? n count = .ok (drawn, c') ∧
            drawn.length = count ∧
            ∀ p ∈ drawn,
              p.Perm (Chance.identity n) ∧
              ∃ gathered,
                t.extract (Indices.value p) = .ok gathered ∧
                gathered.rows.Perm t.rows) := by
  refine ⟨?_, ?_, ?_, ?_, ?_⟩
  · intro p q hLength hWithin hPlaces
    have hFirst := hRows.picked hWithin
    have hBoth :
        ∀ i ∈ Indices.compose p q, Table.IsWithin n i := by
      refine List.forall_mem_map.mpr ?_
      intro j hJ
      exact hWithin _ (Indices.item_mem (hPlaces j hJ))
    refine ⟨t.picked p, t.picked (Indices.compose p q),
      hRows.extract_of_within hSize hWithin,
      hRows.rows_picked hWithin, ?_,
      hRows.rows_picked hBoth,
      hRows.extract_of_within hSize hBoth⟩
    rw [hFirst.extract_of_within hLength hPlaces,
      hRows.picked_picked hWithin hPlaces]
  · intro p hPerm
    have hWithin := Chance.isWithin_of_perm hPerm
    have hLength := Chance.length_of_perm hPerm
    refine ⟨t.picked p, hRows.extract_of_within hSize hWithin,
      hRows.rows_picked hWithin,
      hRows.rows_picked_perm hPerm,
      Indices.isInverse_inverse hPerm, ?_⟩
    intro inverse hInverse
    have hPlaces := Indices.isWithin_inverse hPerm hInverse
    rw [(hRows.picked hWithin).extract_of_within
        (hLength ▸ hSize) hPlaces,
      hRows.picked_inverse hPerm hInverse]
  · intro p hLarge
    exact hRows.extract_of_tooLarge hLarge
  · intro before after index hWords hBefore hOutside
    exact hRows.extract_of_outside hWords hBefore hOutside
  · intro c hPermutes count
    constructor
    · intro e hRoom
      exact Chance.permutations?_of_error hRoom
    · intro hRoom
      have hCount : 0 ≤ count :=
        (lengths_of_checkSizes hRoom count (by simp)).1
      refine ⟨_, _, Chance.permutations?_of_ok hRoom,
        Chance.length_permutations_toNat c n hCount, ?_⟩
      intro p hP
      have hPerm := hPermutes.perm_of_mem count.toNat p hP
      exact ⟨hPerm, t.picked p,
        hRows.extract_of_within hSize
          (Chance.isWithin_of_perm hPerm),
        hRows.rows_picked_perm hPerm⟩

/- Three rows, in orders with and without repetitions. -/
theorem extract_composes_doubles :
    let t : Tensor Float := ⟨[3, 1], [1, 2, 3]⟩
    t.HasRows 3 [1] ∧
      3 < 2 ^ 63 ∧
      (∃ first second,
        t.extract (Indices.value [0, -1, 1, 1]) = .ok first ∧
        first.rows = [[1], [3], [2], [2]] ∧
        first.extract (Indices.value [-1, -3]) = .ok second ∧
        second.rows = [[2], [3]] ∧
        t.extract (Indices.value [1, -1]) = .ok second) ∧
      (∃ gathered,
        t.extract (Indices.value [2, 0, 1]) = .ok gathered ∧
        gathered.rows = [[3], [1], [2]] ∧
        gathered.extract (Indices.value [1, 2, 0]) = .ok t) ∧
      t.extract (Indices.value [0, 2 ^ 63]) =
        .error .tooLarge ∧
      t.extract (Indices.value [-3, 3, -4]) =
        .error (.outOfBounds 3 3) ∧
      ∃ drawn c',
        Chance.permutations? (.turning 48 : Chance Float) 3 2 =
          .ok (drawn, c') ∧
        drawn = [[1, 2, 0], [2, 0, 1]] ∧
        ∀ p ∈ drawn,
          ∃ gathered,
            t.extract (Indices.value p) = .ok gathered ∧
            gathered.rows.Perm t.rows := by
  intro t
  have hRows : t.HasRows 3 [1] := by
    refine ⟨rfl, ?_, ?_⟩ <;> simp [t]
  have hSize : 3 < 2 ^ 63 := by decide
  obtain ⟨hTwice, hOnce, hLarge, hOutside, hDrawn⟩ :=
    extract_composes hRows hSize
  refine ⟨hRows, hSize, ?_, ?_, ?_, ?_, ?_⟩
  · obtain ⟨first, second, hFirst, hRowsFirst, hSecond,
        hRowsSecond, hBoth⟩ :=
      hTwice [0, -1, 1, 1] [-1, -3] (by decide) (by decide)
        (by decide)
    exact ⟨first, second, hFirst, hRowsFirst, hSecond,
      hRowsSecond, hBoth⟩
  · obtain ⟨gathered, hOk, hGathered, -, hInverse, hBack⟩ :=
      hOnce [2, 0, 1] (by decide)
    exact ⟨gathered, hOk, hGathered, hBack _ hInverse⟩
  · exact hLarge [0, 2 ^ 63] ⟨2 ^ 63, by simp, by decide⟩
  · exact hOutside [-3] [-4] 3 (by decide) (by decide)
      (by decide)
  · have hRoom :
        checkSizes (α := Float) 48 [2, (3 : Nat)] = .ok () := rfl
    obtain ⟨drawn, c', hOk, -, hEach⟩ :=
      (hDrawn (.turning 48) (Chance.permutes_turning 3 48)
        2).2 hRoom
    have hOrderings : drawn = [[1, 2, 0], [2, 0, 1]] := by
      cases hOk
      decide
    refine ⟨drawn, c', hOk, hOrderings, ?_⟩
    intro p hP
    exact (hEach p hP).2

/- A number that is no word is no index, and not the first. -/
theorem extract_tooLarge :
    let t : Tensor Float := ⟨[2, 1], [1, 2]⟩
    let p : List Int := [0, 10 ^ 30]
    t.HasRows 2 [1] ∧
      Table.IsWithin 2 0 ∧
      ¬ Table.IsWithin 2 (10 ^ 30) ∧
      t.extract (Indices.value p) = .error .tooLarge ∧
      ∀ index size,
        t.extract (Indices.value p) ≠
          .error (.outOfBounds index size) := by
  intro t p
  have hRows : t.HasRows 2 [1] := by
    refine ⟨rfl, ?_, ?_⟩ <;> simp [t]
  have hRefused :
      t.extract (Indices.value p) = .error .tooLarge :=
    hRows.extract_of_tooLarge ⟨10 ^ 30, by simp [p], by decide⟩
  refine ⟨hRows, by decide, by decide, hRefused, ?_⟩
  intro index size
  rw [hRefused]
  simp

end Tensor

end NeighbourInfo
