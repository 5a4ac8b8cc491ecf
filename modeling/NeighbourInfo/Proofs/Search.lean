import NeighbourInfo.Search
import Mathlib

/-
  Searches among the points of aligned observations.

  Key definitions include:
    * `NeighbourInfo.Window.admissible`
    * `NeighbourInfo.Observations.separation`
    * `NeighbourInfo.Observations.others`

  Where the tables have as many rows as each other, a search
  looks at the separations of the point from the points that
  are admissible to it, and at nothing else.

  This is proven by:
    * `NeighbourInfo.Observations.countsAt_eq_bind`
    * `NeighbourInfo.Observations.countsAt_of_isAligned`
-/

------------------------------------------------------------
-- Admissible Points
------------------------------------------------------------

namespace NeighbourInfo

namespace Window

/-
  Of `n` points those that a point is compared with: all that
  are further away in time than the window.
-/
def admissible
    (window : Nat)
    (i : Nat)
    (n : Nat) :
    List Nat :=
  (List.range n).filter fun j =>
    window < ((i : Int) - j).natAbs

theorem mem_admissible_iff
    {window i n j : Nat} :
    j ∈ admissible window i n ↔
      j < n ∧ window < ((i : Int) - j).natAbs := by
  simp [admissible]

theorem nodup_admissible
    (window : Nat)
    (i : Nat)
    (n : Nat) :
    (admissible window i n).Nodup :=
  List.nodup_range.filter _

/- There are no more admissible points than points. -/
theorem length_admissible_le
    (window : Nat)
    (i : Nat)
    (n : Nat) :
    (admissible window i n).length ≤ n := by
  calc
    (admissible window i n).length
      ≤ (List.range n).length := List.length_filter_le _ _
    _ = n := List.length_range

/- Items numbered by points are kept at admissible points. -/
theorem keep_map_range
    {β : Type}
    (window : Nat)
    (i : Nat)
    (n : Nat)
    (f : Nat → β) :
    keep window i ((List.range n).map f) =
      (admissible window i n).map f := by
  have hIndexed :
      ((List.range n).map f).zipIdx =
        (List.range n).map fun j => (f j, j) := by
    apply List.ext_getElem
    · simp
    · simp
  have hAdmits :
      ∀ j, admits window i n j =
        decide (window < ((i : Int) - j).natAbs) := by
    intro j
    rw [Bool.eq_iff_iff, admits_iff, decide_eq_true_iff]
  simp only [keep, hIndexed, List.filter_map, List.map_map,
    List.length_map, List.length_range, Function.comp_def,
    hAdmits, admissible]

end Window

end NeighbourInfo

------------------------------------------------------------
-- Separations Of Points
------------------------------------------------------------

namespace NeighbourInfo

namespace Observations

variable {α : Type} [Scalar α]

/- The distances of two points, one for each variable. -/
def separation
    (norm : Norm)
    (data : Observations α)
    (i : Nat)
    (j : Nat) :
    Separation α :=
  let distance (t : Table α) :=
    norm.distance (t.rows.getD i []) (t.rows.getD j [])
  ⟨distance data.x, distance data.y, distance data.z⟩

/- The separations of a point from those admissible to it. -/
def others
    (norm : Norm)
    (window : Nat)
    (data : Observations α)
    (i : Nat) :
    List (Separation α) :=
  (Window.admissible window i data.size).map
    (data.separation norm i)

theorem length_others
    (norm : Norm)
    (window : Nat)
    (data : Observations α)
    (i : Nat) :
    (data.others norm window i).length =
      (Window.admissible window i data.size).length :=
  List.length_map _

end Observations

end NeighbourInfo

------------------------------------------------------------
-- Counts Of Points
------------------------------------------------------------

namespace NeighbourInfo

namespace Observations

variable {α : Type} [Scalar α]

/- Distances from a row of a table are taken row by row. -/
private theorem distancesFrom_of_lt
    {t : Table α}
    {i : Nat}
    (hPoint : i < t.size)
    (norm : Norm) :
    distancesFrom norm i t =
      .ok
        ((List.range t.size).map fun j =>
          norm.distance (t.rows.getD i [])
            (t.rows.getD j [])) := by
  have hRow : t.rowAt i = .ok (t.rows.getD i []) := by
    have hPosition : Table.position? t.size i = some i := by
      simp [Table.position?, hPoint]
    simp [Table.rowAt, hPosition]
  have hRows :
      t.rows.map (norm.distance (t.rows.getD i [])) =
        (List.range t.size).map fun j =>
          norm.distance (t.rows.getD i []) (t.rows.getD j []) := by
    apply List.ext_getElem
    · simp [Table.size]
    · intro j hLeft hRight
      have hRow : j < t.rows.length := by simpa using hLeft
      simp [List.getElem?_eq_getElem hRow]
  rw [distancesFrom, hRow]
  exact congrArg Except.ok hRows

/- The separations of a point from all points, in order. -/
theorem separations_distancesAt
    {data : Observations α}
    (hAligned : data.IsAligned)
    {i : Nat}
    (hPoint : i < data.size)
    (norm : Norm) :
    ∃ d : Distances α,
      data.distancesAt norm i = .ok d ∧ d.isEven ∧
        d.separations =
          .ok
            ((List.range data.size).map
              (data.separation norm i)) := by
  rcases hAligned with ⟨hY, hZ⟩
  rw [distancesAt, distancesFrom_of_lt hPoint,
    distancesFrom_of_lt (t := data.y) (by rwa [hY]),
    distancesFrom_of_lt (t := data.z) (by rwa [hZ]), hY, hZ]
  refine ⟨_, rfl, ?_, ?_⟩
  · rw [Distances.isEven_iff]
    simp
  · rw [Distances.separations_of_isEven]
    · congr 1
      apply List.ext_getElem
      · simp [size]
      · intro j hLeft hRight
        simp [separation]
    · rw [Distances.isEven_iff]
      simp

/-
  The counts of a point among aligned observations are those
  of the algorithm among the separations from the admissible
  points, if there are enough of them.
-/
theorem countsAt_eq_bind
    {data : Observations α}
    (hAligned : data.IsAligned)
    {i : Nat}
    (hPoint : i < data.size)
    (algorithm : Algorithm)
    (norm : Norm)
    (window : Nat)
    (k : Value α) :
    let search : Search α := ⟨k, norm, window⟩
    data.countsAt algorithm search i =
      (search.neighbours i
          (Window.admissible window i data.size).length).bind
        fun k =>
          Counts.ofSeparations algorithm k
            (data.others norm window i) := by
  intro search
  rcases separations_distancesAt hAligned hPoint norm with
    ⟨d, hDistances, hEven, hAll⟩
  rw [countsAt, hDistances]
  change d.counts _ _ _ = _
  rw [Distances.counts_of_isEven hEven, hAll]
  change Search.counts _ _ _ _ = _
  rw [Search.counts, Window.keep_map_range, List.length_map]
  rfl

/- A whole number of neighbours is compared with the points. -/
theorem countsAt_of_isAligned
    {data : Observations α}
    (hAligned : data.IsAligned)
    {i : Nat}
    (hPoint : i < data.size)
    (algorithm : Algorithm)
    (norm : Norm)
    (window : Nat)
    (k : Int) :
    data.countsAt algorithm ⟨.whole k, norm, window⟩ i =
      if ((Window.admissible window i data.size).length : Int)
          < k then
        .error
          (.tooFewNeighbours i
            (Window.admissible window i data.size).length
            (.whole k))
      else
        Counts.ofSeparations algorithm k
          (data.others norm window i) := by
  rw [countsAt_eq_bind hAligned hPoint,
    Search.neighbours_of_whole rfl]
  split
  · rfl
  · rfl

end Observations

end NeighbourInfo
