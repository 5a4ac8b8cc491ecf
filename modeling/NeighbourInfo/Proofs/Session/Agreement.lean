import NeighbourInfo.Proofs.Session.Symmetry

/-
  What the results of an estimator depend on.

  Key definitions include:
    * `NeighbourInfo.Settings.pointCounts`
    * `NeighbourInfo.Context.AgreesReordered`

  Two estimators with as many observations, one `k` and one
  window refuse the same points.  Where the same is counted at
  every point they compute the same local values, and the same
  average also where the points are in another order.  If the
  counts stay the same whatever row of a variable stands where,
  so do the averages with a variable in a new order.

  This is proven by:
    * `NeighbourInfo.Context.result_locals_congr`
    * `NeighbourInfo.Context.result_average_perm`
    * `NeighbourInfo.Context.AgreesReordered.result_locals`
    * `NeighbourInfo.Context.AgreesReordered.result_average`
-/

------------------------------------------------------------
-- Points That Are Refused
------------------------------------------------------------

namespace NeighbourInfo

/- What is refused need not be the same. -/
theorem unlessRefused_congr
    {ε β : Type}
    {refusal : Option ε}
    {b b' : β}
    (hSame : refusal = none → b = b') :
    unlessRefused refusal b = unlessRefused refusal b' := by
  cases refusal with
  | some e => rfl
  | none => rw [hSame rfl]

namespace Window

/- All points have enough others. -/
def AreEnough
    (window : Nat)
    (k : Nat)
    (n : Nat) :
    Prop :=
  ∀ i < n, k ≤ (admissible window i n).length

theorem areEnough_of_firstRefusal?
    {α : Type}
    {window k n : Nat}
    (hNone : firstRefusal? (α := α) window k n = none) :
    AreEnough window k n := by
  intro i hI
  have hPoint :
      refusal? (α := α) window k n i = none :=
    List.findSome?_eq_none_iff.mp hNone i (List.mem_range.mpr hI)
  by_contra hFew
  rw [refusal?_eq_some (Nat.lt_of_not_le hFew)] at hPoint
  cases hPoint

end Window

end NeighbourInfo

------------------------------------------------------------
-- The Same Counts
------------------------------------------------------------

namespace NeighbourInfo

/- The counts of a point with the norm and window of settings. -/
def Settings.pointCounts
    {α : Type} [Scalar α]
    (algorithm : Algorithm)
    (k : Nat)
    (data : Observations α)
    (settings : Settings α)
    (i : Nat) :
    Counts :=
  data.pointCounts algorithm settings.norm settings.window k i

namespace Context

variable {α : Type} [Scalar α]
variable {algorithm : Algorithm} {k : Nat}
variable {data data' : Observations α} {c c' : Context α}

section SameSize

variable
  (hCounting : c.estimator.IsCounting algorithm k data)
  (hCounting' : c'.estimator.IsCounting algorithm k data')
  (hSize : data'.size = data.size)
  (hWindow :
    c'.estimator.settings.window =
      c.estimator.settings.window)
include hCounting hCounting' hSize hWindow

/- The local values are those of the counts, one by one. -/
theorem result_locals_congr
    (hCounts :
      Window.AreEnough c.estimator.settings.window k data.size →
        ∀ i < data.size,
          c'.estimator.settings.pointCounts algorithm k data'
              i =
            c.estimator.settings.pointCounts algorithm k data
              i) :
    (locals c').1.result = (locals c).1.result := by
  rw [hCounting.result_locals, hCounting'.result_locals,
    hWindow, hSize]
  apply unlessRefused_congr
  intro hNone
  apply List.map_congr_left
  intro i hI
  have hSame :=
    hCounts (Window.areEnough_of_firstRefusal? hNone) i
      (List.mem_range.mp hI)
  rw [Settings.pointCounts, Settings.pointCounts, hWindow]
    at hSame
  rw [hSame]

/- The points may be in another order for the average. -/
theorem result_average_perm
    [Literal α] [Scalar.ExactSums α]
    (hCounts :
      Window.AreEnough c.estimator.settings.window k data.size →
        ((List.range data.size).map
          (c'.estimator.settings.pointCounts algorithm k
            data')).Perm
        ((List.range data.size).map
          (c.estimator.settings.pointCounts algorithm k
            data))) :
    (average .null .null c').1.result =
      (average .null .null c).1.result := by
  rcases hCounting.exists_result_average with
    ⟨means, hAverage, hMeans⟩
  rcases hCounting'.exists_result_average with
    ⟨means', hAverage', hMeans'⟩
  rw [hAverage, hAverage', hWindow, hSize]
  apply unlessRefused_congr
  intro hNone
  have hPerm :=
    hCounts (Window.areEnough_of_firstRefusal? hNone)
  have hSums :=
    Sums.ofCounts_perm (α := α) algorithm hPerm
  rw [hMeans inferInstance, hMeans' inferInstance, hSize]
  exact
    congrArg
      (fun sums : Sums α =>
        (sums.dividedBy (Scalar.ofNat data.size)).average
          algorithm (Scalar.ofNat k))
      hSums

theorem result_average_congr
    [Literal α] [Scalar.ExactSums α]
    (hCounts :
      Window.AreEnough c.estimator.settings.window k data.size →
        ∀ i < data.size,
          c'.estimator.settings.pointCounts algorithm k data'
              i =
            c.estimator.settings.pointCounts algorithm k data
              i) :
    (average .null .null c').1.result =
      (average .null .null c).1.result := by
  apply
    result_average_perm hCounting hCounting' hSize hWindow
  intro hEnough
  apply List.Perm.of_eq
  apply List.map_congr_left
  intro i hI
  exact hCounts hEnough i (List.mem_range.mp hI)

end SameSize

end Context

end NeighbourInfo

------------------------------------------------------------
-- New Orders
------------------------------------------------------------

namespace NeighbourInfo

namespace Context

variable {α : Type} [Scalar α] [Literal α]

/-
  Tables of the one estimator stand for tables of the other,
  in any order of their rows, and any table in the place of
  one variable leads to the same counts as what stands for it.
-/
structure AgreesReordered
    (algorithm : Algorithm)
    (k : Nat)
    (data : Observations α)
    (data' : Observations α)
    (c : Context α)
    (c' : Context α)
    (standing : Variable → Table α → Table α) :
    Prop where
  counting : c.estimator.IsCounting algorithm k data
  counting' : c'.estimator.IsCounting algorithm k data'
  size : data'.size = data.size
  window :
    c'.estimator.settings.window = c.estimator.settings.window
  table : ∀ v, data'.table v = standing v (data.table v)
  rows : ∀ v t, (standing v t).size = t.size
  reorder :
    ∀ v t (ordering : Value α),
      Context.reorder (standing v t) ordering =
        (Context.reorder t ordering).map (standing v)
  counts :
    ∀ v t, t.size = data.size →
      Window.AreEnough c.estimator.settings.window k data.size →
        ∀ i < data.size,
          c'.estimator.settings.pointCounts algorithm k
              (data'.withTable (standing v t) v) i =
            c.estimator.settings.pointCounts algorithm k
              (data.withTable t v) i

namespace AgreesReordered

variable {algorithm : Algorithm} {k : Nat}
variable {data data' : Observations α} {c c' : Context α}
variable {standing : Variable → Table α → Table α}
variable
  (hAgrees :
    AgreesReordered algorithm k data data' c c' standing)
include hAgrees

/- The observations as they are count the same. -/
theorem pointCounts_eq
    (hEnough :
      Window.AreEnough c.estimator.settings.window k data.size)
    (i : Nat)
    (hPoint : i < data.size) :
    c'.estimator.settings.pointCounts algorithm k data' i =
      c.estimator.settings.pointCounts algorithm k data i := by
  have hCounts := hAgrees.counts .x data.x rfl hEnough i hPoint
  have hTable : standing .x data.x = data'.table .x :=
    (hAgrees.table .x).symm
  rw [hTable, Observations.withTable_table] at hCounts
  exact hCounts

theorem result_locals :
    (locals c').1.result = (locals c).1.result :=
  result_locals_congr hAgrees.counting hAgrees.counting'
    hAgrees.size hAgrees.window hAgrees.pointCounts_eq

/- The averages agree in any order, or fail alike. -/
theorem result_average
    [Scalar.ExactSums α]
    (chosen : Value α)
    (ordering : Value α) :
    (average chosen ordering c').1.result =
      (average chosen ordering c).1.result := by
  have hCounting := hAgrees.counting
  have hCounting' := hAgrees.counting'
  by_cases hNull : ordering = .null
  · rw [hNull]
    exact
      result_average_congr hCounting hCounting' hAgrees.size
        hAgrees.window hAgrees.pointCounts_eq
  rw [average_of_ne chosen hNull]
  cases hChosen : Variable.ofValue chosen with
  | error e =>
      rw [reorderedAverage_eq hCounting.method
          hCounting.observations,
        reorderedAverage_eq hCounting'.method
          hCounting'.observations,
        hChosen]
  | ok v =>
      rw [result_reorderedAverage hCounting.method
          hCounting.observations hChosen,
        result_reorderedAverage hCounting'.method
          hCounting'.observations hChosen,
        hAgrees.table, hAgrees.reorder]
      cases hReorder :
          Context.reorder (data.table v) ordering with
      | error e => rfl
      | ok t =>
          have hRows : t.size = data.size :=
            (size_of_reorder hReorder).trans
              (Observations.size_table hCounting.isAligned v)
          have hRows' : (standing v t).size = data'.size := by
            rw [hAgrees.rows, hRows, hAgrees.size]
          have hExchanged := hCounting.withTable hRows v
          have hExchanged' := hCounting'.withTable hRows' v
          have hSize :
              (data'.withTable (standing v t) v).size =
                (data.withTable t v).size := by
            rw [hExchanged'.2, hExchanged.2, hAgrees.size]
          refine
            result_average_congr hExchanged.1 hExchanged'.1
              hSize hAgrees.window ?_
          rw [hExchanged.2]
          exact hAgrees.counts v t hRows

end AgreesReordered

end Context

end NeighbourInfo
