import NeighbourInfo.Proofs.Counts.Values
import NeighbourInfo.Proofs.Session.Agreement

/-
  Bounds of what an estimator computes.

  All local values are rational numbers and lie between bounds
  that depend on the algorithm, the number of neighbours and
  the number of points, and on nothing else: not on what was
  observed, the norm, nor the window.  So does the average.
  Which of equally distant points are taken for the nearest
  makes no difference to the bounds.

  This is proven by:
    * `NeighbourInfo.Context.isBounded_of_harmonic`
-/

------------------------------------------------------------
-- Bounds
------------------------------------------------------------

namespace NeighbourInfo

namespace Estimator.IsCounting

variable {α F : Type} [Scalar α] [Field F] [CharZero F]
variable {embed : F → α} {γ : F}
variable {algorithm : Algorithm} {k : Nat}
variable {data : Observations α}

/- The average of counts within bounds, one for each point. -/
theorem isBounded_average
    [Scalar.ExactSums α]
    {e : Estimator α}
    (hCounting : e.IsCounting algorithm k data)
    (hHarmonic : Scalar.IsHarmonic embed γ)
    {counts : Nat → Counts}
    (hBetween :
      ∀ i < data.size,
        (counts i).IsBetween (algorithm.leastCount k)
          (data.size - 1)) :
    algorithm.IsBounded embed k data.size
      (((Sums.ofCounts algorithm
            ((List.range data.size).map counts)).dividedBy
          (Scalar.ofNat data.size)).average algorithm
        (Scalar.ofNat k)) := by
  have hSome : (List.range data.size).map counts ≠ [] := by
    have hSize := hCounting.one_le_size
    rw [ne_eq, List.map_eq_nil_iff, List.range_eq_nil]
    omega
  have hAll :
      ∀ c ∈ (List.range data.size).map counts,
        c.IsBetween (algorithm.leastCount k)
          (data.size - 1) := by
    intro c hC
    rcases List.mem_map.mp hC with ⟨i, hI, rfl⟩
    exact hBetween i (List.mem_range.mp hI)
  have hBounded :=
    Sums.isBounded_average hHarmonic hCounting.one_le_neighbours
      hSome hAll
  rw [List.length_map, List.length_range] at hBounded
  exact hBounded

end Estimator.IsCounting

namespace Context

variable {α F : Type} [Scalar α] [Scalar.LawfulOrder α]
variable [Scalar.ExactSums α] [Literal α]
variable [Field F] [CharZero F]
variable {embed : F → α} {γ : F}
variable {algorithm : Algorithm} {k : Nat}
variable {data : Observations α} {c : Context α}

/-
  Every local value that is computed, and the average, is a
  rational number within the bounds.  The distances have to be
  numbers, which may be unbounded, and the first algorithm
  needs the `k`-th points to be further away than those before
  them.  The second algorithm may choose any of the points
  that are equally far away, at each point again.
-/
theorem isBounded_of_harmonic
    (hHarmonic : Scalar.IsHarmonic embed γ)
    (hCounting : c.estimator.IsCounting algorithm k data)
    (hNumbers :
      data.HaveNumbers c.estimator.settings.norm
        c.estimator.settings.window)
    (hApart :
      algorithm = .first →
        data.AreApart c.estimator.settings.norm
          c.estimator.settings.window k) :
    let n := data.size
    let norm := c.estimator.settings.norm
    let window := c.estimator.settings.window
    let separation := data.separation norm
    (∀ values, (locals c).1.result = .ok values →
      ∀ a ∈ values, algorithm.IsBounded embed k n a) ∧
    (∀ value, (average .null .null c).1.result = .ok value →
      algorithm.IsBounded embed k n value) ∧
    (algorithm = .second → ∀ choice : Nat → List Nat,
      (∀ i < n,
        Separation.IsNearest (separation i) k
          (Window.admissible window i n) (choice i)) →
      let counts (i : Nat) :=
        Counts.within ((choice i).map (separation i))
          (data.others norm window i)
      let sums : Sums α :=
        Sums.ofCounts .second ((List.range n).map counts)
      (∀ i < n,
        Algorithm.second.IsBounded embed k n
          ((counts i).localValue .second (Scalar.ofNat k))) ∧
      Algorithm.second.IsBounded embed k n
        ((sums.dividedBy (Scalar.ofNat n)).average .second
          (Scalar.ofNat k))) := by
  intro n norm window separation
  have hPos := hCounting.one_le_neighbours
  have hBetween :
      Window.firstRefusal? (α := α) window k n = none →
        ∀ i < n,
          (data.pointCounts algorithm norm window k
            i).IsBetween (algorithm.leastCount k) (n - 1) := by
    intro hNone i hPoint
    exact
      Observations.isBetween_pointCounts hPoint hPos
        (Window.areEnough_of_firstRefusal? hNone i hPoint)
        hNumbers hApart
  refine ⟨?_, ?_, ?_⟩
  · intro values hValues a hA
    rw [hCounting.result_locals, unlessRefused_eq_ok_iff]
      at hValues
    rcases hValues with ⟨hNone, rfl⟩
    rcases List.mem_map.mp hA with ⟨i, hI, rfl⟩
    exact
      (hBetween hNone i
        (List.mem_range.mp hI)).isBounded_localValue hHarmonic
          hPos
  · intro value hValue
    rcases hCounting.exists_result_average with
      ⟨means, hAverage, hMeans⟩
    rw [hAverage, unlessRefused_eq_ok_iff] at hValue
    rcases hValue with ⟨hNone, rfl⟩
    rw [hMeans inferInstance]
    exact
      hCounting.isBounded_average hHarmonic (hBetween hNone)
  · intro hSecond choice hNearest counts sums
    subst hSecond
    have hChosen :
        ∀ i < n,
          (counts i).IsBetween (Algorithm.second.leastCount k)
            (n - 1) := by
      intro i hPoint
      exact
        Observations.isBetween_within hPoint hPos hNumbers
          (hNearest i hPoint)
    refine ⟨?_, ?_⟩
    · intro i hPoint
      exact
        (hChosen i hPoint).isBounded_localValue hHarmonic hPos
    · exact hCounting.isBounded_average hHarmonic hChosen

/- Three points, no two of them equally far apart. -/
theorem isBounded_of_harmonic_rationals :
    let data : Observations ℚ :=
      ⟨⟨1, [[0], [1], [-2]]⟩, ⟨1, [[0], [0], [0]]⟩,
        ⟨1, [[0], [0], [0]]⟩⟩
    let e : Estimator ℚ :=
      { Estimator.create (some (.counting .first))
          (.initial (.whole 2) (.count 1)) with
        observations := some data }
    let c : Context ℚ := ⟨e, .initial none default⟩
    e.IsCounting .first 2 data ∧
      data.HaveNumbers .maximum 0 ∧
      data.AreApart .maximum 0 2 ∧
      ∃ values value,
        (locals c).1.result = .ok values ∧
          (average .null .null c).1.result = .ok value ∧
          (∀ a ∈ values, -1 / 2 ≤ a ∧ a ≤ 1 / 2) ∧
          -1 / 2 ≤ value ∧ value ≤ 1 / 2 := by
  intro data e c
  have hCounting : e.IsCounting .first 2 data :=
    { method := rfl
      observations := rfl
      isAligned := ⟨by decide, by decide⟩
      one_le_size := by decide
      size_lt := by decide
      neighbours := rfl
      one_le_neighbours := by decide
      one_le_threads := by decide }
  have hNumbers : data.HaveNumbers .maximum 0 := by
    unfold Observations.HaveNumbers
    decide +kernel
  have hApart : data.AreApart .maximum 0 2 := by
    have hSorted :
        ∀ i < data.size,
          (data.others .maximum 0 i).Pairwise fun s t =>
            Separation.ranksUpTo s t := by
      decide +kernel
    have hLess :
        ∀ i < data.size,
          let joints :=
            (data.others .maximum 0 i).map Separation.joint
          Scalar.lt (joints.getD 0 0) (joints.getD 1 0) := by
      decide +kernel
    intro i hPoint others
    right
    rw [Separation.radius, Separation.radius,
      List.mergeSort_of_pairwise (hSorted i hPoint)]
    exact hLess i hPoint
  have hBounds :
      ∀ a : ℚ,
        Algorithm.first.IsBounded (id : ℚ → ℚ) 2 3 a →
          -1 / 2 ≤ a ∧ a ≤ 1 / 2 := by
    rintro a ⟨q, hValue, hLowest, hHighest⟩
    rw [Rat.cast_id, id] at hValue
    subst hValue
    norm_num [Algorithm.lowest, Algorithm.highest, harmonic,
      Finset.sum_range_succ] at hLowest hHighest
    rw [neg_div]
    exact ⟨hLowest, hHighest⟩
  rcases
      isBounded_of_harmonic (c := c) isHarmonic_rationals
        hCounting hNumbers (fun _ => hApart) with
    ⟨hLocals, hAverage, -⟩
  have hEnough : 2 * 0 + 1 + 2 ≤ data.size := by decide
  have hCounting' : c.estimator.IsCounting .first 2 data :=
    hCounting
  rcases hCounting'.exists_locals_iff.mpr hEnough with
    ⟨values, hValues⟩
  rcases hCounting'.exists_average_iff.mpr hEnough with
    ⟨value, hValue⟩
  exact
    ⟨hCounting, hNumbers, hApart, values, value, hValues,
      hValue,
      fun a hA => hBounds a (hLocals values hValues a hA),
      hBounds value (hAverage value hValue)⟩

end Context

end NeighbourInfo
