import NeighbourInfo.Proofs.Monotone
import NeighbourInfo.Proofs.Scalar.Real
import NeighbourInfo.Proofs.Session.Agreement

/-
  Euclidean distances and their squares.

  Key definitions include:
    * `NeighbourInfo.Context.withNorm`

  The square root keeps the order of distances, and so the two
  norms find the same neighbours and count the same points.
  Nothing but the order counts: any function that increases
  strictly could be applied to the distances of a point.

  This is proven by:
    * `NeighbourInfo.Reals.keepsOrder`
    * `NeighbourInfo.Observations.distancesAt_euclidean`
    * `NeighbourInfo.Observations.countsAt_euclidean`
    * `NeighbourInfo.Context.results_euclidean`
-/

------------------------------------------------------------
-- Functions Of Real Numbers
------------------------------------------------------------

namespace NeighbourInfo

namespace Reals

/- What increases strictly keeps the order. -/
theorem keepsOrder
    {f : ℝ → ℝ}
    {among : Set ℝ}
    (hMono : StrictMonoOn f among) :
    Scalar.KeepsOrder f among where
  isNumber_iff := by simp
  lt_iff := by
    intro a b hA hB
    simp [hMono.lt_iff_lt hA hB]

/- Roots keep the order of what is not below zero. -/
theorem keepsOrder_sqrt :
    Scalar.KeepsOrder (Scalar.sqrt : ℝ → ℝ) (Set.Ici 0) :=
  keepsOrder fun _ hA _ _ hLess =>
    Real.sqrt_lt_sqrt hA hLess

theorem squaredDistance_nonneg
    (p : List ℝ)
    (q : List ℝ) :
    0 ≤ Norm.squaredDistance p q := by
  rw [Norm.squaredDistance, sum_eq]
  apply List.sum_nonneg
  intro a hA
  rw [← List.map_uncurry_zip_eq_zipWith] at hA
  rcases List.mem_map.mp hA with ⟨pair, -, rfl⟩
  exact mul_self_nonneg _

end Reals

end NeighbourInfo

------------------------------------------------------------
-- Distances
------------------------------------------------------------

namespace NeighbourInfo

namespace Observations

variable {α : Type} [Scalar α]

/- One variable is measured row by row. -/
private theorem eq_of_distancesFrom
    {norm : Norm}
    {point : Int}
    {t : Table α}
    {distances : List α}
    (hOk : distancesFrom norm point t = .ok distances) :
    ∃ centre, distances = t.rows.map (norm.distance centre) := by
  rcases exists_of_bind_eq_ok hOk with ⟨centre, -, hRows⟩
  cases hRows
  exact ⟨centre, rfl⟩

theorem eq_of_distancesAt
    {norm : Norm}
    {data : Observations α}
    {point : Int}
    {d : Distances α}
    (hOk : data.distancesAt norm point = .ok d) :
    ∃ p q r,
      d =
        ⟨data.x.rows.map (norm.distance p),
          data.y.rows.map (norm.distance q),
          data.z.rows.map (norm.distance r)⟩ := by
  rcases exists_of_bind_eq_ok hOk with ⟨x, hX, hOk⟩
  rcases exists_of_bind_eq_ok hOk with ⟨y, hY, hOk⟩
  rcases exists_of_bind_eq_ok hOk with ⟨z, hZ, hOk⟩
  cases hOk
  rcases eq_of_distancesFrom hX with ⟨p, rfl⟩
  rcases eq_of_distancesFrom hY with ⟨q, rfl⟩
  rcases eq_of_distancesFrom hZ with ⟨r, rfl⟩
  exact ⟨p, q, r, rfl⟩

private theorem isAmong_of_distancesAt
    {norm : Norm}
    {among : Set α}
    (hAmong : ∀ p q, norm.distance p q ∈ among)
    {data : Observations α}
    {point : Int}
    {d : Distances α}
    (hOk : data.distancesAt norm point = .ok d) :
    d.IsAmong among := by
  rcases eq_of_distancesAt hOk with ⟨p, q, r, rfl⟩
  exact
    ⟨List.forall_mem_map.mpr fun row _ => hAmong p row,
      List.forall_mem_map.mpr fun row _ => hAmong q row,
      List.forall_mem_map.mpr fun row _ => hAmong r row⟩

private theorem isEven_of_distancesAt
    {norm : Norm}
    {data : Observations α}
    (hAligned : data.IsAligned)
    {point : Int}
    {d : Distances α}
    (hOk : data.distancesAt norm point = .ok d) :
    d.isEven := by
  rcases eq_of_distancesAt hOk with ⟨p, q, r, rfl⟩
  rw [Distances.isEven_iff]
  simp only [List.length_map]
  exact hAligned

/- Euclidean distances are the roots of the squared ones. -/
theorem distancesAt_euclidean
    (data : Observations α)
    (point : Int) :
    data.distancesAt .euclidean point =
      (data.distancesAt .euclideanSquared point).map
        (Distances.map Scalar.sqrt) := by
  have hFrom :
      ∀ t : Table α,
        distancesFrom .euclidean point t =
          (distancesFrom .euclideanSquared point t).map
            (List.map Scalar.sqrt) := by
    intro t
    unfold distancesFrom
    cases t.rowAt point with
    | error e => rfl
    | ok centre =>
        change Except.ok _ = Except.ok _
        rw [List.map_map]
        rfl
  unfold distancesAt
  rw [hFrom, hFrom, hFrom]
  cases distancesFrom .euclideanSquared point data.x with
  | error e => rfl
  | ok x =>
      cases distancesFrom .euclideanSquared point data.y with
      | error e => rfl
      | ok y =>
          cases distancesFrom .euclideanSquared point data.z with
          | error e => rfl
          | ok z => rfl

theorem others_euclidean
    (window : Nat)
    (data : Observations α)
    (i : Nat) :
    data.others .euclidean window i =
      (data.others .euclideanSquared window i).map
        (Separation.map Scalar.sqrt) := by
  rw [others, others, List.map_map]
  rfl

/- Both norms count the same at any point, or fail alike. -/
theorem countsAt_euclidean
    {data : Observations ℝ}
    (hAligned : data.IsAligned)
    (algorithm : Algorithm)
    (k : Value ℝ)
    (window : Int)
    (point : Int) :
    data.countsAt algorithm ⟨k, .euclidean, window⟩ point =
      data.countsAt algorithm ⟨k, .euclideanSquared, window⟩
        point := by
  unfold countsAt
  dsimp only
  rw [distancesAt_euclidean]
  cases hDistances :
      data.distancesAt .euclideanSquared point with
  | error e => rfl
  | ok d =>
      have hAmong : d.IsAmong (Set.Ici 0) :=
        isAmong_of_distancesAt Reals.squaredDistance_nonneg
          hDistances
      exact
        Reals.keepsOrder_sqrt.counts_map
          (isEven_of_distancesAt hAligned hDistances) hAmong
          ⟨k, .euclideanSquared, window⟩ algorithm point

end Observations

end NeighbourInfo

------------------------------------------------------------
-- Results
------------------------------------------------------------

namespace NeighbourInfo

namespace Context

/- The estimator measures distances by another norm. -/
def withNorm
    {α : Type}
    (norm : Norm)
    (c : Context α) :
    Context α :=
  { c with
    estimator :=
      { c.estimator with
        settings :=
          { c.estimator.settings with norm := norm } } }

theorem isCounting_withNorm
    {α : Type} [Scalar α]
    {algorithm : Algorithm}
    {k : Nat}
    {data : Observations α}
    {c : Context α}
    (hCounting : c.estimator.IsCounting algorithm k data)
    (norm : Norm) :
    (c.withNorm norm).estimator.IsCounting algorithm k data :=
  { hCounting with }

variable {algorithm : Algorithm} {k : Nat}
variable {data : Observations ℝ} {c : Context ℝ}

/- The two norms agree, whatever stands for a variable. -/
theorem agreesReordered_euclidean
    (hCounting : c.estimator.IsCounting algorithm k data) :
    AgreesReordered algorithm k data data
      (c.withNorm .euclideanSquared) (c.withNorm .euclidean)
      fun _ t => t where
  counting := isCounting_withNorm hCounting .euclideanSquared
  counting' := isCounting_withNorm hCounting .euclidean
  size := rfl
  window := rfl
  table _ := rfl
  rows _ _ := rfl
  reorder _ t ordering := by
    cases Context.reorder t ordering with
    | error e => rfl
    | ok t => rfl
  counts := by
    intro v t hRows hEnough i hPoint
    rcases hCounting.withTable hRows v with
      ⟨hExchanged, hSize⟩
    have hRefusal :
        Window.refusal? (α := ℝ)
            c.estimator.settings.window k
            (data.withTable t v).size i = none := by
      rw [Window.refusal?, if_neg]
      rw [hSize]
      exact Nat.not_lt_of_le (hEnough i hPoint)
    rw [← hSize] at hPoint
    have hCounts :=
      Observations.countsAt_euclidean hExchanged.isAligned
        algorithm (.whole k) c.estimator.settings.window i
    rw [Observations.countsAt_eq_unlessRefused
        hExchanged.isAligned hPoint
        hCounting.one_le_neighbours,
      Observations.countsAt_eq_unlessRefused
        hExchanged.isAligned hPoint
        hCounting.one_le_neighbours, hRefusal] at hCounts
    exact Except.ok.inj hCounts

/-
  Euclidean distances and their squares lead to the same
  results.  At every point both norms count the same points or
  are refused alike, with any window; so the local values and
  the averages are the same, also with a variable in a new
  order.  The same ones are taken among points that are
  equally far away, and whichever are chosen, within them is
  counted the same.
  The counts of a point depend on its distances through their
  order alone: a function that increases strictly over them
  can be applied to the distances in all variables.
-/
theorem results_euclidean
    (hCounting : c.estimator.IsCounting algorithm k data) :
    let one := c.withNorm .euclidean
    let other := c.withNorm .euclideanSquared
    (∀ (window i : Nat),
      data.countsAt algorithm ⟨.whole k, .euclidean, window⟩
          i =
        data.countsAt algorithm
          ⟨.whole k, .euclideanSquared, window⟩ i) ∧
    (locals one).1.result = (locals other).1.result ∧
    (∀ chosen ordering : Value ℝ,
      (average chosen ordering one).1.result =
        (average chosen ordering other).1.result) ∧
    (∀ (window i : Nat),
      let points := Window.admissible window i data.size
      let others (norm : Norm) := data.others norm window i
      Separation.nearest k (others .euclidean) =
        (Separation.nearest k (others .euclideanSquared)).map
          (Separation.map Real.sqrt) ∧
      ∀ chosen : List Nat,
        let isNearest (norm : Norm) :=
          Separation.IsNearest (data.separation norm i) k points
            chosen
        let within (norm : Norm) :=
          Counts.within (chosen.map (data.separation norm i))
            (others norm)
        (isNearest .euclidean ↔ isNearest .euclideanSquared) ∧
          (isNearest .euclidean →
            within .euclidean = within .euclideanSquared)) ∧
    ∀ (f : ℝ → ℝ) (among : Set ℝ),
      StrictMonoOn f among →
      ∀ d : Distances ℝ,
        d.isEven → d.IsAmong among →
        ∀ (search : Search ℝ) (algorithm : Algorithm)
          (point : Int),
          (d.map f).counts search algorithm point =
            d.counts search algorithm point := by
  intro one other
  have hAgrees := agreesReordered_euclidean hCounting
  refine
    ⟨?_, hAgrees.result_locals, hAgrees.result_average, ?_, ?_⟩
  · intro window i
    exact
      Observations.countsAt_euclidean hCounting.isAligned
        algorithm (.whole k) window i
  · intro window i points others
    have hAmong :
        ∀ j,
          (data.separation .euclideanSquared i j).IsAmong
            (Set.Ici 0) :=
      fun j =>
        ⟨Reals.squaredDistance_nonneg _ _,
          Reals.squaredDistance_nonneg _ _,
          Reals.squaredDistance_nonneg _ _⟩
    have hOthers :
        ∀ s ∈ others .euclideanSquared,
          s.IsAmong (Set.Ici 0) :=
      List.forall_mem_map.mpr fun j _ => hAmong j
    have hRoots :
        others .euclidean =
          (others .euclideanSquared).map
            (Separation.map Scalar.sqrt) :=
      data.others_euclidean window i
    refine ⟨?_, ?_⟩
    · rw [hRoots]
      exact Reals.keepsOrder_sqrt.nearest_map hOthers k
    · intro chosen isNearest within
      have hNearest :
          isNearest .euclidean ↔ isNearest .euclideanSquared :=
        Reals.keepsOrder_sqrt.isNearest_map_iff
          fun j _ => hAmong j
      refine ⟨hNearest, fun hChoice => ?_⟩
      have hSome :
          chosen.map (data.separation .euclideanSquared i) ≠
            [] := by
        rw [← List.length_pos_iff, List.length_map,
          hChoice.length]
        exact hCounting.one_le_neighbours
      have hChosen :
          chosen.map (data.separation .euclidean i) =
            (chosen.map
              (data.separation .euclideanSquared i)).map
              (Separation.map Scalar.sqrt) := by
        rw [List.map_map]
        rfl
      unfold within
      rw [hRoots, hChosen]
      exact
        Reals.keepsOrder_sqrt.within_map hOthers hSome
          (List.forall_mem_map.mpr fun j _ => hAmong j)
  · intro f among hMono d hEven hAmong search algorithm point
    exact
      (Reals.keepsOrder hMono).counts_map hEven hAmong search
        algorithm point

/- Five points in a plane, two of them equally far away. -/
theorem results_euclidean_reals :
    let data : Observations ℝ :=
      ⟨⟨2, [[0, 0], [3, 4], [5, 0], [1, 1], [2, 7]]⟩,
        ⟨1, [[0], [2], [2], [5], [1]]⟩,
        ⟨1, [[0], [1], [1], [3], [2]]⟩⟩
    let settings : Settings ℝ :=
      .initial (.whole 1) (.count 2)
    let e : Estimator ℝ :=
      { Estimator.create (some (.counting .second)) settings
        with observations := some data }
    let c : Context ℝ := ⟨e, .initial none default⟩
    e.IsCounting .second 1 data ∧
      ∃ value,
        (average .null .null (c.withNorm .euclidean)).1.result =
            .ok value ∧
          (average .null .null
              (c.withNorm .euclideanSquared)).1.result =
            .ok value := by
  intro data settings e c
  have hCounting : e.IsCounting .second 1 data :=
    { method := rfl
      observations := rfl
      isAligned := ⟨rfl, rfl⟩
      one_le_size := by decide
      size_lt := by decide
      neighbours := rfl
      one_le_neighbours := Nat.le_refl 1
      one_le_threads := by decide }
  rcases results_euclidean (c := c) hCounting with
    ⟨-, -, hAverage, -⟩
  have hSquared :=
    isCounting_withNorm (c := c) hCounting .euclideanSquared
  rcases hSquared.exists_average_iff.mpr (by decide) with
    ⟨value, hValue⟩
  exact
    ⟨hCounting, value, (hAverage .null .null).trans hValue,
      hValue⟩

end Context

end NeighbourInfo
