import NeighbourInfo.Session.Context
import NeighbourInfo.Proofs.Gather
import NeighbourInfo.Proofs.Transition

/-
  Averages with one variable in a new order.

  The new table stands in the estimator while the average is
  computed.  Computing does not change the estimator, so that
  nothing is left of the exchange when the former table has
  been put back.

  This is proven by:
    * `NeighbourInfo.Context.leaves_compute`
    * `NeighbourInfo.Context.estimator_exchanging`
    * `NeighbourInfo.Context.reorderedAverage_eq`
    * `NeighbourInfo.Context.average_reordered`
-/

------------------------------------------------------------
-- Computing
------------------------------------------------------------

namespace NeighbourInfo

namespace Context

variable {α β : Type}

theorem estimator?_bind
    (f : Estimator α → Transition (Context α) α β)
    (c : Context α) :
    (estimator? >>= f) c = f c.estimator c :=
  Transition.bind_of_read rfl f

theorem method_of_some
    {c : Context α}
    {m : Method α}
    (hMethod : c.estimator.method = some m)
    (missing : Error α) :
    method missing c = (⟨[], .ok m⟩, c) := by
  unfold method
  rw [estimator?_bind, hMethod]
  rfl

theorem method_of_none
    {c : Context α}
    (hMethod : c.estimator.method = none)
    (missing : Error α) :
    method missing c = (⟨[], .error missing⟩, c) := by
  unfold method
  rw [estimator?_bind, hMethod]
  rfl

theorem leaves_method
    {τ : Type}
    {view : Context α → τ}
    (missing : Error α) :
    Transition.Leaves view
      (method missing : Transition (Context α) α _) := by
  intro c
  cases hMethod : c.estimator.method with
  | none => rw [method_of_none hMethod]
  | some m => rw [method_of_some hMethod]

/- Computing does not change the estimator. -/
theorem leaves_compute
    (missing : Error α)
    (evaluate :
      Method α → Settings α → Observations α →
        Report α (Computation α × β)) :
    Transition.Leaves Context.estimator
      (compute missing evaluate) := by
  unfold compute
  refine (leaves_method missing).bind fun m => ?_
  refine Transition.Leaves.bind (fun c => rfl) fun e => ?_
  refine (Transition.leaves_ofExcept _).bind fun data => ?_
  refine (Transition.leaves_report _).bind fun pair => ?_
  rcases pair with ⟨computation, result⟩
  refine Transition.Leaves.bind (fun c => rfl) fun _ => ?_
  exact Transition.leaves_pure result

variable [Scalar α]

/- The plain average is what is computed. -/
theorem result_plainAverage
    (c : Context α) :
    (plainAverage c).1.result =
      (compute .notImplemented Method.average c).1.result := by
  unfold plainAverage
  rcases hRun : compute .notImplemented Method.average c with
    ⟨⟨notes, _ | value⟩, after⟩
  · rw [Transition.bind_error hRun]
  · rw [Transition.bind_ok hRun]
    rfl

end Context

end NeighbourInfo

------------------------------------------------------------
-- Exchanging
------------------------------------------------------------

namespace NeighbourInfo

namespace Observations

variable {α : Type}

/- The former table takes the place of the new one again. -/
theorem withTable_withTable
    (data : Observations α)
    (t : Table α)
    (v : Variable) :
    (data.withTable t v).withTable (data.table v) v = data := by
  cases v with
  | x => rfl
  | y => rfl

theorem withTable_table
    (data : Observations α)
    (v : Variable) :
    data.withTable (data.table v) v = data := by
  cases v with
  | x => rfl
  | y => rfl

theorem size_table
    {data : Observations α}
    (hAligned : data.IsAligned)
    (v : Variable) :
    (data.table v).size = data.size := by
  cases v with
  | x => rfl
  | y => exact hAligned.1

/- A table of as many rows can take the place of another. -/
theorem size_withTable
    {data : Observations α}
    {t : Table α}
    (hRows : t.size = data.size)
    (v : Variable) :
    (data.withTable t v).size = data.size := by
  cases v with
  | x => exact hRows
  | y => rfl

theorem isAligned_withTable
    {data : Observations α}
    (hAligned : data.IsAligned)
    {t : Table α}
    (hRows : t.size = data.size)
    (v : Variable) :
    (data.withTable t v).IsAligned := by
  rcases hAligned with ⟨hY, hZ⟩
  cases v with
  | x => exact ⟨hY.trans hRows.symm, hZ.trans hRows.symm⟩
  | y => exact ⟨hRows, hZ⟩

end Observations

namespace Context

variable {α β : Type}

/- An estimator of which one table has been exchanged. -/
def withTable
    (t : Table α)
    (v : Variable)
    (c : Context α) :
    Context α :=
  { c with estimator := c.estimator.withTable t v }

theorem withTable_eq
    {c : Context α}
    {data : Observations α}
    (hData : c.estimator.observations = some data)
    (t : Table α)
    (v : Variable) :
    c.withTable t v =
      { c with
        estimator :=
          { c.estimator with
            observations := some (data.withTable t v) } } := by
  simp [withTable, Estimator.withTable, hData]

/- The former table is back, whatever the operation did. -/
theorem estimator_exchanging
    {c : Context α}
    {data : Observations α}
    (hData : c.estimator.observations = some data)
    {operation : Transition (Context α) α β}
    (hLeaves :
      Transition.Leaves Context.estimator operation)
    (v : Variable)
    (t : Table α) :
    (exchanging v (data.table v) t operation c).2.estimator =
      c.estimator := by
  have hAfter :
      (exchanging v (data.table v) t operation
          c).2.estimator =
        (operation (c.withTable t v)).2.estimator.withTable
          (data.table v) v := rfl
  rw [hAfter, hLeaves]
  rcases c with ⟨e, shared⟩
  rcases e with
    ⟨method, settings, dimensions, isInitialised, pending,
      observations, lastAverage⟩
  change observations = some data at hData
  subst hData
  have hBack := data.withTable_withTable t v
  simp [withTable, Estimator.withTable, hBack]

end Context

end NeighbourInfo

------------------------------------------------------------
-- Averages In A New Order
------------------------------------------------------------

namespace NeighbourInfo

namespace Context

variable {α : Type} [Scalar α] [Literal α]

/-
  The stages of an average in a new order: the variable, the
  order, and then the average with the exchanged table.
-/
theorem reorderedAverage_eq
    {c : Context α}
    {m : Method α}
    (hMethod : c.estimator.method = some m)
    {data : Observations α}
    (hData : c.estimator.observations = some data)
    (chosen : Value α)
    (ordering : Value α) :
    reorderedAverage chosen ordering c =
      match Variable.ofValue chosen with
      | .error e => (⟨[], .error e⟩, c)
      | .ok v =>
          match reorder (data.table v) ordering with
          | .error e => (⟨[], .error e⟩, c)
          | .ok t =>
              exchanging v (data.table v) t
                (compute .notImplemented Method.average) c := by
  have hFinalised := Estimator.finalised_of_some hData
  unfold reorderedAverage
  rw [Transition.bind_of_read (method_of_some hMethod _),
    estimator?_bind, hFinalised, Transition.ofExcept_ok_bind]
  cases Variable.ofValue chosen with
  | error e => rw [Transition.ofExcept_error_bind]
  | ok v =>
      rw [Transition.ofExcept_ok_bind]
      dsimp only
      cases reorder (data.table v) ordering with
      | error e => rw [Transition.ofExcept_error_bind]
      | ok t => rw [Transition.ofExcept_ok_bind]

/- Nothing is left of a new order in the estimator. -/
theorem estimator_reorderedAverage
    (chosen : Value α)
    (ordering : Value α)
    (c : Context α) :
    (reorderedAverage chosen ordering c).2.estimator =
      c.estimator := by
  cases hMethod : c.estimator.method with
  | none =>
      unfold reorderedAverage
      rw [Transition.bind_error (method_of_none hMethod _)]
  | some m =>
      cases hData : c.estimator.observations with
      | none =>
          have hFinalised := Estimator.finalised_of_none hData
          unfold reorderedAverage
          rw [Transition.bind_of_read
              (method_of_some hMethod _),
            estimator?_bind, hFinalised,
            Transition.ofExcept_error_bind]
      | some data =>
          rw [reorderedAverage_eq hMethod hData]
          cases Variable.ofValue chosen with
          | error e => rfl
          | ok v =>
              cases hOrder :
                  reorder (data.table v) ordering with
              | error e => simp only [hOrder]
              | ok t =>
                  simp only [hOrder]
                  exact
                    estimator_exchanging hData
                      (leaves_compute _ _) v t

/- The result is the average with the exchanged table. -/
theorem result_reorderedAverage
    {c : Context α}
    {m : Method α}
    (hMethod : c.estimator.method = some m)
    {data : Observations α}
    (hData : c.estimator.observations = some data)
    {chosen : Value α}
    {v : Variable}
    (hChosen : Variable.ofValue chosen = .ok v)
    (ordering : Value α) :
    (reorderedAverage chosen ordering c).1.result =
      (reorder (data.table v) ordering).bind fun t =>
        (average .null .null (c.withTable t v)).1.result := by
  rw [reorderedAverage_eq hMethod hData, hChosen]
  cases hOrder : reorder (data.table v) ordering with
  | error e =>
      simp only [hOrder]
      rfl
  | ok t =>
      simp only [hOrder]
      exact (result_plainAverage (c.withTable t v)).symm

end Context

end NeighbourInfo

------------------------------------------------------------
-- Lists Of Whole Numbers
------------------------------------------------------------

namespace NeighbourInfo

namespace Context

variable {α : Type} [Scalar α] [Literal α]

/- The length comes first, then every number, then the rows. -/
theorem reorder_whole
    (former : Table α)
    (indices : List Int) :
    reorder former (.list (indices.map .whole)) =
      if indices.length = former.size then
        unlessRefused
          ((indices.findSome? Tensor.tooLarge?).or
            (indices.findSome?
              (Table.outside? former.size)))
          ⟨former.width, indices.map former.row⟩
      else
        .error
          (.wrongReordering indices.length former.size) := by
  have hItems :
      (Value.list (indices.map Value.whole) : Value α).items? =
        some (indices.map Value.whole) := rfl
  unfold reorder readOrdering
  rw [hItems]
  dsimp only
  rw [List.length_map]
  by_cases hLength : indices.length = former.size
  · rw [if_pos hLength, if_pos hLength, Tensor.indices_whole]
    cases indices.findSome? (Tensor.tooLarge? (α := α)) with
    | some e => rfl
    | none => exact former.gather_eq_unlessRefused indices
  · rw [if_neg hLength, if_neg hLength]
    rfl

/- Indices within the bounds give the rows they stand for. -/
theorem reorder_of_within
    {former : Table α}
    (hSize : former.size < 2 ^ 63)
    {indices : List Int}
    (hLength : indices.length = former.size)
    (hWithin :
      ∀ i ∈ indices, Table.IsWithin former.size i) :
    reorder former (.list (indices.map .whole)) =
      .ok ⟨former.width, indices.map former.row⟩ := by
  have hIndices : ∀ i ∈ indices, Tensor.IsIndex i := by
    intro i hI
    rcases hWithin i hI with ⟨hLow, hHigh⟩
    unfold Tensor.IsIndex
    omega
  rw [reorder_whole, if_pos hLength,
    Tensor.findSome?_tooLarge_eq_none hIndices,
    Table.findSome?_outside_eq_none hWithin]
  rfl

/- The order that the rows are in already changes nothing. -/
private theorem reorder_range
    {former : Table α}
    (hSize : former.size < 2 ^ 63) :
    reorder former
        (.list
          (((List.range former.size).map Int.ofNat).map
            .whole)) =
      .ok former := by
  have hRows :
      ((List.range former.size).map Int.ofNat).map former.row =
        former.rows := by
    rw [List.map_map]
    exact former.map_row_range
  rw [reorder_of_within hSize (by simp), hRows]
  refine List.forall_mem_map.mpr ?_
  intro i hI
  have hRow : (i : Int) < former.size :=
    Int.ofNat_lt.mpr (List.mem_range.mp hI)
  have hFront : -(former.size : Int) ≤ (i : Int) := by omega
  exact ⟨hFront, hRow⟩

/- With an order the average is taken in that order. -/
theorem average_of_ne
    (chosen : Value α)
    {ordering : Value α}
    (hGiven : ordering ≠ .null) :
    average chosen ordering =
      reorderedAverage chosen ordering := by
  unfold average
  split
  · exact absurd rfl hGiven
  · rfl

/-
  The average with one variable in a new order.  Whatever is
  asked for, the estimator is afterwards what it was before.
  A list of whole numbers has to be as long as the table; it
  is refused if a number does not fit in sixty-four bits, and
  then if an index is out of bounds.  Otherwise the average is
  that of an estimator which holds the gathered rows.
-/
theorem average_reordered :
    (∀ (c : Context α) (chosen ordering : Value α),
      ordering ≠ .null →
        (average chosen ordering c).2.estimator =
          c.estimator) ∧
    ∀ (c : Context α) (m : Method α) (data : Observations α),
      c.estimator.method = some m →
      c.estimator.observations = some data →
      data.IsAligned → data.size < 2 ^ 63 →
      ∀ (chosen : Value α) (v : Variable),
        Variable.ofValue chosen = .ok v →
        ∀ indices : List Int,
          let n := data.size
          let within (i : Int) : Prop := -(n : Int) ≤ i ∧ i < n
          let outcome :=
            (average chosen (.list (indices.map .whole))
              c).1.result
          (indices.length ≠ n →
            outcome =
              .error (.wrongReordering indices.length n)) ∧
          (indices.length = n →
            (∃ i ∈ indices, ¬ (-2 ^ 63 ≤ i ∧ i < 2 ^ 63)) →
              outcome = .error .tooLarge) ∧
          (indices.length = n →
            (∀ i ∈ indices, -2 ^ 63 ≤ i ∧ i < 2 ^ 63) →
              ∀ before i after,
                indices = before ++ i :: after →
                (∀ j ∈ before, within j) → ¬ within i →
                  outcome = .error (.outOfBounds i n)) ∧
          (indices.length = n → (∀ i ∈ indices, within i) →
            let former := data.table v
            let t : Table α :=
              ⟨former.width,
                indices.map fun i : Int =>
                  former.rows.getD (i % n).toNat []⟩
            let exchanged : Estimator α :=
              { c.estimator with
                observations := some (data.withTable t v) }
            outcome =
              (average .null .null
                { c with estimator := exchanged }).1.result) ∧
          (indices = (List.range n).map Int.ofNat →
            outcome =
              (average .null .null c).1.result) := by
  constructor
  · intro c chosen ordering hGiven
    rw [average_of_ne chosen hGiven]
    exact estimator_reorderedAverage chosen ordering c
  · intro c m data hMethod hData hAligned hSize chosen v
      hChosen indices n within outcome
    have hTable : (data.table v).size = n :=
      Observations.size_table hAligned v
    have hOutcome :
        outcome =
          (reorder (data.table v)
              (.list (indices.map .whole))).bind fun t =>
            (average .null .null
              (c.withTable t v)).1.result :=
      result_reorderedAverage hMethod hData hChosen _
    refine ⟨?_, ?_, ?_, ?_, ?_⟩
    · intro hLength
      rw [hOutcome, reorder_whole, hTable, if_neg hLength]
      rfl
    · intro hLength hLarge
      rw [hOutcome, reorder_whole, hTable, if_pos hLength,
        Tensor.findSome?_tooLarge_eq_some hLarge]
      rfl
    · intro hLength hIndices before i after hSplit hBefore
        hOutside
      have hIndex := hIndices i (by simp [hSplit])
      rw [hOutcome, reorder_whole, hTable, if_pos hLength,
        Tensor.findSome?_tooLarge_eq_none hIndices, hSplit,
        Table.findSome?_outside_eq_some hBefore hOutside
          hIndex]
      rfl
    · intro hLength hWithin former t exchanged
      have hRows :
          former.row = fun i : Int =>
            former.rows.getD (i % n).toNat [] := by
        unfold Table.row
        rw [hTable]
      rw [hOutcome,
        reorder_of_within (hTable ▸ hSize)
          (hLength.trans hTable.symm) (hTable ▸ hWithin),
        hRows, ← withTable_eq hData]
      rfl
    · intro hIdentity
      rw [hOutcome, hIdentity, ← hTable,
        reorder_range (hTable ▸ hSize)]
      change
        (average .null .null
          (c.withTable (data.table v) v)).1.result = _
      rw [withTable_eq hData, data.withTable_table, ← hData]

/- The second variable of three points in another order. -/
theorem average_reordered_doubles :
    let x : Table Float := ⟨1, [[0], [1], [3]]⟩
    let data : Observations Float :=
      ⟨x, ⟨1, [[0], [2], [1]]⟩, ⟨1, [[0], [0], [1]]⟩⟩
    let e : Estimator Float :=
      { Estimator.create (some (.counting .first))
          (.initial (.whole 1) (.count 2)) with
        observations := some data }
    let c : Context Float := ⟨e, .initial none default⟩
    let exchanged : Estimator Float :=
      { e with
        observations :=
          some { data with y := ⟨1, [[1], [0], [2]]⟩ } }
    let ordering : Value Float :=
      .list (([2, 0, -2] : List Int).map .whole)
    data.IsAligned ∧
      (average (.whole 2) ordering c).2.estimator = e ∧
      (average (.whole 2) ordering c).1.result =
        (average .null .null
          { c with estimator := exchanged }).1.result := by
  intro x data e c exchanged ordering
  have hAligned : data.IsAligned := ⟨by decide, by decide⟩
  rcases average_reordered (α := Float) with ⟨hFrame, hResult⟩
  rcases
      hResult c (.counting .first) data rfl rfl hAligned
        (by decide) (.whole 2) .y rfl [2, 0, -2] with
    ⟨-, -, -, hGathered, -⟩
  exact
    ⟨hAligned, hFrame c (.whole 2) ordering (by simp [ordering]),
      hGathered rfl (by decide)⟩

/-
  A number without room for a sign is no index that is out of
  bounds, but is too large to be one.
-/
theorem average_reordered_tooLarge :
    let data : Observations Float :=
      ⟨⟨1, [[0], [1], [3]]⟩, ⟨1, [[0], [2], [1]]⟩,
        ⟨1, [[0], [0], [1]]⟩⟩
    let e : Estimator Float :=
      { Estimator.create (some (.counting .first))
          (.initial (.whole 1) (.count 1)) with
        observations := some data }
    let c : Context Float := ⟨e, .initial none default⟩
    let indices : List Int := [0, 1, 10 ^ 30]
    let outcome :=
      (average (.whole 1) (.list (indices.map .whole))
        c).1.result
    indices.length = data.size ∧
      (∃ i ∈ indices, ¬ (-(data.size : Int) ≤ i ∧
        i < data.size)) ∧
      outcome = .error .tooLarge ∧
      ∀ (i : Int) (n : Nat),
        outcome ≠ .error (.outOfBounds i n) := by
  intro data e c indices outcome
  have hMethod :
      c.estimator.method = some (.counting .first) := rfl
  have hData : c.estimator.observations = some data := rfl
  have hChosen :
      Variable.ofValue (.whole 1 : Value Float) = .ok .x := rfl
  have hLarge : ∃ i ∈ indices, ¬ Tensor.IsIndex i :=
    ⟨10 ^ 30, by simp [indices], by decide⟩
  have hLength : indices.length = data.x.size := by decide
  have hStages :
      outcome =
        (reorder data.x (.list (indices.map .whole))).bind
          fun t =>
            (average .null .null
              (c.withTable t .x)).1.result :=
    result_reorderedAverage hMethod hData hChosen _
  have hOutcome : outcome = .error .tooLarge := by
    rw [hStages, reorder_whole, if_pos hLength,
      Tensor.findSome?_tooLarge_eq_some hLarge]
    rfl
  refine ⟨by decide, ⟨10 ^ 30, by simp [indices], by decide⟩,
    hOutcome, ?_⟩
  intro i n hOut
  rw [hOutcome] at hOut
  exact absurd hOut (by simp)

end Context

end NeighbourInfo
