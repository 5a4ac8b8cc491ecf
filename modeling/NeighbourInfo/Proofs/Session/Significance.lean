import NeighbourInfo.Proofs.Chance
import NeighbourInfo.Proofs.Independence
import NeighbourInfo.Proofs.Scalar.Real
import NeighbourInfo.Proofs.Session.Counting
import NeighbourInfo.Proofs.Session.Symmetry

/-
  Comparisons of an average with its values on surrogates.

  Key definitions include:
    * `NeighbourInfo.Scalar.OrderedFractions`
    * `NeighbourInfo.Context.IsOrdering`
    * `NeighbourInfo.Estimator.reordered`
    * `NeighbourInfo.Context.IsComparison`
    * `NeighbourInfo.Context.Compares`

  Every surrogate is an average of its own: that of the same
  observations with one variable in another order.  Nothing is
  left of one surrogate when the next one is taken, and none
  of them fails where the plain average does not.

  This is proven by:
    * `NeighbourInfo.Context.result_average_of_isOrdering`
    * `NeighbourInfo.Context.exists_mapM_average`
    * `NeighbourInfo.Context.compares_surrogates`
    * `NeighbourInfo.Context.significance_surrogates`
-/

------------------------------------------------------------
-- Fractions
------------------------------------------------------------

namespace NeighbourInfo

namespace Scalar

/- Fractions of one size are in the order of their parts. -/
class OrderedFractions (α : Type) [Scalar α] : Prop where
  le_div (m n size : Nat) :
    m ≤ n → 1 ≤ size →
      le (ofNat m / ofNat size) (ofNat n / ofNat size : α)

end Scalar

instance : Scalar.OrderedFractions ℝ where
  le_div m n size hLe _ := by
    have hCast : (m : ℝ) / size ≤ n / size :=
      div_le_div_of_nonneg_right (Nat.cast_le.mpr hLe)
        (Nat.cast_nonneg size)
    rw [Reals.ofNat_eq, Reals.ofNat_eq, Reals.ofNat_eq,
      Scalar.le, Bool.or_eq_true]
    rcases lt_or_eq_of_le hCast with hLess | hSame
    · exact Or.inl (decide_eq_true hLess)
    · exact Or.inr (decide_eq_true hSame)

end NeighbourInfo

------------------------------------------------------------
-- Surrogates
------------------------------------------------------------

namespace NeighbourInfo

section Reordered

variable {α : Type}

/-
  The observations with one variable in another order.  An
  index counts its rows from the front, or from the back where
  it is negative; nothing else is moved.
-/
def Observations.reordered
    (v : Variable)
    (ordering : List Int)
    (data : Observations α) :
    Observations α :=
  let former := data.table v
  data.withTable ⟨former.width, ordering.map former.row⟩ v

/- The estimator with one variable in another order. -/
def Estimator.reordered
    (v : Variable)
    (ordering : List Int)
    (e : Estimator α) :
    Estimator α :=
  { e with
    observations :=
      e.observations.map (Observations.reordered v ordering) }

namespace Estimator

theorem observations_reordered
    {e : Estimator α}
    {data : Observations α}
    (hData : e.observations = some data)
    (v : Variable)
    (ordering : List Int) :
    (e.reordered v ordering).observations =
      some (data.reordered v ordering) := by
  rw [reordered, hData]
  rfl

/- The order that the rows are in already changes nothing. -/
theorem reordered_identity
    {e : Estimator α}
    {data : Observations α}
    (hData : e.observations = some data)
    (hAligned : data.IsAligned)
    (v : Variable) :
    e.reordered v (Chance.identity data.size) = e := by
  have hTable : (data.table v).size = data.size :=
    Observations.size_table hAligned v
  have hRows :
      (Chance.identity data.size).map (data.table v).row =
        (data.table v).rows := by
    rw [← hTable, Chance.identity, List.map_map]
    exact (data.table v).map_row_range
  have hSame :
      data.reordered v (Chance.identity data.size) = data := by
    rw [Observations.reordered, hRows]
    exact data.withTable_table v
  rw [reordered, hData, Option.map_some, hSame, ← hData]

end Estimator

end Reordered

namespace Context

variable {α : Type} [Scalar α] [Literal α]

/-
  A value can be read as an order of `n` rows: as many indices
  as there are rows, each of which is within the bounds.
-/
def IsOrdering
    (n : Nat)
    (v : Value α)
    (ordering : List Int) :
    Prop :=
  readOrdering n v = .ok ordering ∧
    ∀ i ∈ ordering, -(n : Int) ≤ i ∧ i < n

theorem IsOrdering.reorder
    {former : Table α}
    {v : Value α}
    {ordering : List Int}
    (hOrdering : IsOrdering former.size v ordering) :
    Context.reorder former v =
      .ok ⟨former.width, ordering.map former.row⟩ := by
  rcases hOrdering with ⟨hRead, hWithin⟩
  unfold Context.reorder
  rw [hRead]
  change former.gather ordering = _
  rw [Table.gather_eq_unlessRefused,
    Table.findSome?_outside_eq_none hWithin]
  rfl

/- Numbers of rows that are words can be read as an order. -/
theorem isOrdering_whole
    {n : Nat}
    (hSize : n < 2 ^ 63)
    {ordering : List Int}
    (hLength : ordering.length = n)
    (hWithin : ∀ i ∈ ordering, -(n : Int) ≤ i ∧ i < n) :
    IsOrdering n (.list (ordering.map .whole) : Value α)
      ordering := by
  have hIndices : ∀ i ∈ ordering, Tensor.IsIndex i := by
    intro i hI
    rcases hWithin i hI with ⟨hLow, hHigh⟩
    unfold Tensor.IsIndex
    omega
  have hItems :
      (Value.list (ordering.map Value.whole) :
          Value α).items? =
        some (ordering.map Value.whole) := rfl
  refine ⟨?_, hWithin⟩
  unfold readOrdering
  rw [hItems]
  dsimp only
  rw [List.length_map, if_pos hLength, Tensor.indices_whole,
    Tensor.findSome?_tooLarge_eq_none hIndices]
  rfl

section Orderings

variable {c : Context α} {m : Method α}
variable {data : Observations α}
variable
  (hMethod : c.estimator.method = some m)
  (hData : c.estimator.observations = some data)
  (hAligned : data.IsAligned)
include hMethod hData hAligned

/- A surrogate has the average of the reordered estimator. -/
theorem result_average_of_isOrdering
    {chosen : Value α}
    {v : Variable}
    (hChosen : Variable.ofValue chosen = .ok v)
    {item : Value α}
    {ordering : List Int}
    (hOrdering : IsOrdering data.size item ordering) :
    (average chosen item c).1.result =
      (c.estimator.reordered v ordering).averaging.result.map
        Prod.snd := by
  have hGiven : item ≠ .null := by
    rintro rfl
    cases hOrdering.1
  have hTable : (data.table v).size = data.size :=
    Observations.size_table hAligned v
  have hReorder := IsOrdering.reorder (hTable ▸ hOrdering)
  rw [average_of_ne chosen hGiven,
    result_reorderedAverage hMethod hData hChosen, hReorder]
  change (plainAverage (c.withTable _ v)).1.result = _
  rw [result_plainAverage_eq, withTable_eq hData,
    Estimator.reordered, hData]
  rfl

/- It fails where the average as it is fails, and alike. -/
theorem failAlike_reordered
    (hKraskov : m.IsKraskov)
    (v : Variable)
    {item : Value α}
    {ordering : List Int}
    (hOrdering : IsOrdering data.size item ordering) :
    FailAlike (c.estimator.averaging.result.map Prod.snd)
      ((c.estimator.reordered v
          ordering).averaging.result.map Prod.snd) := by
  have hTable : (data.table v).size = data.size :=
    Observations.size_table hAligned v
  have hRows :=
    size_of_reorder (IsOrdering.reorder (hTable ▸ hOrdering))
  rw [hTable] at hRows
  have hReordered :=
    Estimator.observations_reordered hData v ordering
  have hStill :
      (c.estimator.reordered v ordering).method = some m :=
    hMethod
  rw [Estimator.averaging_of_some hMethod hData,
    Estimator.averaging_of_some hStill hReordered]
  exact
    (Method.failAlike_average hKraskov _ hAligned
      (Observations.isAligned_withTable hAligned hRows v)
      (Observations.size_withTable hRows v)).map _ _

/-
  Surrogates are taken one after the other.  None of them finds
  anything that another one has left.
-/
theorem exists_mapM_average
    {chosen : Value α}
    {v : Variable}
    (hChosen : Variable.ofValue chosen = .ok v)
    {items : List (Value α)}
    {orderings : List (List Int)}
    (hOrderings :
      List.Forall₂ (IsOrdering data.size) items orderings)
    (hOk :
      ∀ (item : Value α) (ordering : List Int),
        IsOrdering data.size item ordering →
        ∃ value,
          (c.estimator.reordered v
              ordering).averaging.result.map Prod.snd =
            .ok value) :
    ∃ notes values after,
      items.mapM (average chosen) c =
          (⟨notes, .ok values⟩, after) ∧
        after.estimator = c.estimator ∧
        (orderings.map fun ordering =>
            (c.estimator.reordered v
              ordering).averaging.result.map Prod.snd) =
          values.map .ok := by
  induction hOrderings generalizing c with
  | nil => exact ⟨[], [], c, rfl, rfl, rfl⟩
  | @cons item ordering items orderings hFirst _ ih =>
      have hResult :=
        result_average_of_isOrdering hMethod hData hAligned
          hChosen hFirst
      rcases hOk item ordering hFirst with ⟨value, hValue⟩
      have hGiven : item ≠ .null := by
        rintro rfl
        cases hFirst.1
      have hFrame :
          (average chosen item c).2.estimator =
            c.estimator := by
        rw [average_of_ne chosen hGiven]
        exact estimator_reorderedAverage chosen item c
      rw [hValue] at hResult
      rcases hRun : average chosen item c with
        ⟨⟨notes, result⟩, between⟩
      rw [hRun] at hResult hFrame
      dsimp only at hResult hFrame
      subst hResult
      rcases
          ih (hFrame ▸ hMethod) (hFrame ▸ hData)
            (hFrame ▸ hOk) with
        ⟨more, values, after, hRest, hAfter, hValues⟩
      rw [hFrame] at hAfter hValues
      have hAll :
          (items.mapM (average chosen) >>= fun values =>
              pure (value :: values)) between =
            (⟨more ++ [], .ok (value :: values)⟩, after) :=
        Transition.bind_ok hRest _
      refine
        ⟨notes ++ (more ++ []), value :: values, after, ?_,
          hAfter, ?_⟩
      · rw [List.mapM_cons, Transition.bind_ok hRun, hAll]
      · rw [List.map_cons, List.map_cons, hValue, hValues]

end Orderings

end Context

end NeighbourInfo

------------------------------------------------------------
-- Comparisons
------------------------------------------------------------

namespace NeighbourInfo

namespace Context

variable {α : Type} [Scalar α] [Literal α]

/-
  An average compared with surrogates, each of which has its
  own ordering.  The values stand in the order of these, and
  only the average itself is kept as the last one.  The share
  of values that reach it is what it should be; it is at least
  that of the orderings which move nothing.
-/
structure IsComparison
    (v : Variable)
    (orderings : List (List Int))
    (c : Context α)
    (actual : α)
    (values : List α)
    (d : Distribution α)
    (after : Context α) :
    Prop where
  surrogates :
    (orderings.map fun ordering =>
        (average .null .null
          { c with
            estimator :=
              c.estimator.reordered v ordering }).1.result) =
      values.map .ok
  distribution : d = ⟨Tensor.ofList values, actual⟩
  estimator :
    after.estimator =
      { c.estimator with lastAverage := some actual }
  noShare : orderings = [] → d.pValue = Scalar.nan
  share :
    orderings ≠ [] →
      d.pValue =
        Scalar.ofNat (values.countP (Scalar.le actual)) /
          Scalar.ofNat orderings.length
  identities :
    ¬ Scalar.isNaN actual →
      orderings.count (Chance.identity c.estimator.size) ≤
        values.countP (Scalar.le actual)
  leastShare :
    ¬ Scalar.isNaN actual → orderings ≠ [] →
      Scalar.OrderedFractions α →
        Scalar.le
          (Scalar.ofNat
              (orderings.count
                (Chance.identity c.estimator.size)) /
            Scalar.ofNat orderings.length)
          d.pValue

/-
  A run compares the average if there is one.  Otherwise it
  fails as the average does, and leaves the estimator alone.
-/
def Compares
    (v : Variable)
    (orderings : List (List Int))
    (c : Context α)
    (run : Report α (Distribution α) × Context α) :
    Prop :=
  match (average .null .null c).1.result with
  | .error e =>
      run.1.result = .error e ∧
        run.2.estimator = c.estimator
  | .ok actual =>
      ∃ values d,
        run.1.result = .ok d ∧
          IsComparison v orderings c actual values d run.2

omit [Literal α] in
/- As many values reach the average as orderings keep it. -/
private theorem count_le_countP
    {orderings : List (List Int)}
    {surrogate : List Int → Except (Error α) α}
    {values : List α}
    (hValues : orderings.map surrogate = values.map .ok)
    {identity : List Int}
    {actual : α}
    (hActual : surrogate identity = .ok actual)
    (hNumber : ¬ Scalar.isNaN actual) :
    orderings.count identity ≤
      values.countP (Scalar.le actual) := by
  let reaches (result : Except (Error α) α) : Bool :=
    match result with
    | .ok value => Scalar.le actual value
    | .error _ => false
  have hSelf : Scalar.le actual actual := by
    have hEqual : Scalar.eq actual actual := by
      simpa [Scalar.isNaN] using hNumber
    rw [Scalar.le, hEqual, Bool.or_true]
  calc
    orderings.count identity
      ≤ orderings.countP (reaches ∘ surrogate) := by
        apply List.countP_mono_left
        intro ordering _ hSame
        rw [beq_iff_eq] at hSame
        subst hSame
        rw [Function.comp_apply, hActual]
        exact hSelf
    _ = (values.map Except.ok).countP reaches := by
        rw [← hValues, List.countP_map]
    _ = values.countP (Scalar.le actual) := by
        rw [List.countP_map]
        rfl

section Orderings

variable {c : Context α} {m : Method α}
variable {data : Observations α}
variable
  (hMethod : c.estimator.method = some m)
  (hData : c.estimator.observations = some data)
  (hAligned : data.IsAligned)
include hData hAligned

/- What the values of surrogates come to. -/
theorem isComparison_of_values
    {v : Variable}
    {orderings : List (List Int)}
    {actual : α}
    (hActual :
      c.estimator.averaging.result.map Prod.snd = .ok actual)
    {values : List α}
    (hValues :
      (orderings.map fun ordering =>
          (c.estimator.reordered v
            ordering).averaging.result.map Prod.snd) =
        values.map .ok)
    {after : Context α}
    (hAfter : after.estimator = c.estimator.keeping actual) :
    IsComparison v orderings c actual values
      ⟨Tensor.ofList values, actual⟩ after := by
  have hLength : orderings.length = values.length := by
    simpa using congrArg List.length hValues
  have hSize : c.estimator.size = data.size := by
    rw [Estimator.size, hData]
    rfl
  have hCount :
      ¬ Scalar.isNaN actual →
        orderings.count (Chance.identity c.estimator.size) ≤
          values.countP (Scalar.le actual) := by
    refine count_le_countP hValues ?_
    rw [hSize, Estimator.reordered_identity hData hAligned]
    exact hActual
  have hShare :
      orderings ≠ [] →
        (⟨Tensor.ofList values, actual⟩ :
            Distribution α).pValue =
          Scalar.ofNat (values.countP (Scalar.le actual)) /
            Scalar.ofNat orderings.length := by
    intro hSome
    have hPos : values.length ≠ 0 := by
      rw [← hLength]
      exact fun hNone => hSome (List.length_eq_zero_iff.mp hNone)
    rw [hLength]
    exact if_neg hPos
  exact
    { surrogates := by
        rw [← hValues]
        apply List.map_congr_left
        intro ordering _
        exact result_plainAverage_eq _
      distribution := rfl
      estimator := hAfter
      noShare := by
        rintro rfl
        have hNone : values.length = 0 := hLength.symm
        exact if_pos hNone
      share := hShare
      identities := hCount
      leastShare := by
        intro hNumber hSome hFractions
        rw [hShare hSome]
        exact
          hFractions.le_div _ _ _ (hCount hNumber)
            (List.length_pos_iff.mpr hSome) }

include hMethod

/-
  The average and the surrogates after it compare it, whatever
  else has been shared until then.
-/
theorem compares_surrogates
    (hKraskov : m.IsKraskov)
    {chosen : Value α}
    {v : Variable}
    (hChosen : Variable.ofValue chosen = .ok v)
    {given : Value α}
    {items : List (Value α)}
    (hItems : given.items? = some items)
    {orderings : List (List Int)}
    (hOrderings :
      List.Forall₂ (IsOrdering data.size) items orderings)
    (shared : Shared α) :
    Compares v orderings c
      ((plainAverage >>= surrogates chosen given)
        { c with shared := shared }) := by
  have hResult :
      (average .null .null c).1.result =
        c.estimator.averaging.result.map Prod.snd :=
    result_plainAverage_eq c
  have hPlain := plainAverage_eq { c with shared := shared }
  unfold Compares
  rw [hResult]
  rcases hRun : c.estimator.averaging with
    ⟨notes, e | ⟨computation, actual⟩⟩
  · rw [hRun] at hPlain
    rw [Transition.bind_error hPlain]
    exact ⟨rfl, rfl⟩
  · rw [hRun] at hPlain
    have hActual :
        c.estimator.averaging.result.map Prod.snd =
          .ok actual := by
      rw [hRun]
      rfl
    let between : Context α :=
      { recorded computation { c with shared := shared } with
        estimator := c.estimator.keeping actual }
    have hOk :
        ∀ (item : Value α) (ordering : List Int),
          IsOrdering data.size item ordering →
            ∃ value,
              (c.estimator.reordered v
                  ordering).averaging.result.map Prod.snd =
                .ok value := by
      intro item ordering hOrdering
      exact
        (failAlike_reordered hMethod hData hAligned hKraskov v
          hOrdering).exists_ok hActual
    rcases
        exists_mapM_average (c := between) hMethod hData
          hAligned hChosen hOrderings hOk with
      ⟨more, values, after, hMap, hAfter, hValues⟩
    have hSurrogates :
        surrogates chosen given actual between =
          (⟨more ++ [], .ok ⟨Tensor.ofList values, actual⟩⟩,
            after) := by
      unfold surrogates
      rw [hItems]
      dsimp only
      rw [Transition.bind_ok hMap]
      rfl
    rw [Transition.bind_ok hPlain]
    change
      ∃ values d,
        (surrogates chosen given actual between).1.result =
            .ok d ∧
          IsComparison v orderings c actual values d
            (surrogates chosen given actual between).2
    rw [hSurrogates]
    exact
      ⟨values, _, rfl,
        isComparison_of_values hData hAligned hActual hValues
          hAfter⟩

end Orderings

end Context

end NeighbourInfo

------------------------------------------------------------
-- Orderings That Are Chosen
------------------------------------------------------------

namespace NeighbourInfo

/- Permutations are drawn if there is room for all of them. -/
private theorem Shared.drawPermutations_eq
    {α : Type}
    (n : Nat)
    (count : Int)
    (s : Shared α) :
    drawPermutations n count s =
      match Tensor.checkSizes s.chance.room [count, n] with
      | .error e => (⟨[], .error e⟩, s)
      | .ok _ =>
          let (drawn, chance) :=
            s.chance.permutations n count.toNat
          (⟨[], .ok drawn⟩, { s with chance := chance }) := by
  unfold drawPermutations Transition.change
  beta_reduce
  cases hRoom :
      Tensor.checkSizes (α := α) s.chance.room [count, n] with
  | error e =>
      rw [Chance.permutations?_of_error hRoom]
      rfl
  | ok _ =>
      rw [Chance.permutations?_of_ok hRoom]
      rfl

namespace Context

variable {α : Type} [Scalar α] [Literal α]
variable {c : Context α} {data : Observations α}
variable
  (hData : c.estimator.observations = some data)
  {chosen : Value α}
  {v : Variable}
  (hChosen : Variable.ofValue chosen = .ok v)
include hData hChosen

omit [Literal α] in
/- Orderings that are given are taken as they are. -/
theorem chosenOrderings_of_ne
    (count : Value α)
    {given : Value α}
    (hGiven : given ≠ .null) :
    chosenOrderings chosen count given c =
      (⟨[], .ok given⟩, c) := by
  have hFinalised := Estimator.finalised_of_some hData
  unfold chosenOrderings
  rw [estimator?_bind, hFinalised, Transition.ofExcept_ok_bind,
    hChosen, Transition.ofExcept_ok_bind]
  unfold chooseOrderings
  split
  · exact absurd rfl hGiven
  · rfl

omit [Literal α] in
/- Others are drawn, if there is room for all of them. -/
theorem chosenOrderings_of_count
    {count : Int}
    (hSome : 1 ≤ count) :
    chosenOrderings chosen (.whole count) .null c =
      match
        Tensor.checkSizes c.shared.chance.room
          [count, data.size] with
      | .error e => (⟨[], .error e⟩, c)
      | .ok _ =>
          let (drawn, chance) :=
            c.shared.chance.permutations data.size
              count.toNat
          (⟨[],
            .ok
              (.list
                (drawn.map fun ordering =>
                  .list (ordering.map .whole)))⟩,
            { c with
              shared :=
                { c.shared with chance := chance } }) := by
  have hFinalised := Estimator.finalised_of_some hData
  have hBelow :
      (Value.whole count : Value α).isBelow 1 =
        .ok false := by
    simp only [Value.isBelow]
    rw [decide_eq_false (by omega)]
  have hRead :
      readCount (.whole count : Value α) =
        Tensor.readLength (.whole count) := by
    unfold readCount
    dsimp only
    rw [hBelow]
    rfl
  unfold chosenOrderings
  rw [estimator?_bind, hFinalised, Transition.ofExcept_ok_bind,
    hChosen, Transition.ofExcept_ok_bind]
  unfold chooseOrderings
  dsimp only
  rw [hRead, Tensor.readLength]
  by_cases hWord : Tensor.isLength count
  · rw [if_pos hWord, Transition.ofExcept_ok_bind]
    have hDraw :=
      Shared.drawPermutations_eq data.size count c.shared
    cases hRoom :
        Tensor.checkSizes (α := α) c.shared.chance.room
          [count, data.size] with
    | error e =>
        rw [hRoom] at hDraw
        exact
          Transition.bind_error (by rw [onShared, hDraw]) _
    | ok _ =>
        let drawn :=
          c.shared.chance.permutations data.size count.toNat
        have hDrawn :
            onShared (Shared.drawPermutations data.size count)
                c =
              (⟨[], .ok drawn.1⟩,
                { c with
                  shared :=
                    { c.shared with chance := drawn.2 } }) := by
          rw [onShared, hDraw, hRoom]
        exact Transition.bind_ok hDrawn _
  · rw [if_neg hWord]
    have hHuge :
        Tensor.checkSizes (α := α) c.shared.chance.room
            [count, data.size] =
          .error .hugeSize := by
      simp [Tensor.checkSizes, hWord]
    rw [hHuge, Transition.ofExcept_error_bind]

end Context

end NeighbourInfo

------------------------------------------------------------
-- Significances
------------------------------------------------------------

namespace NeighbourInfo

namespace Context

variable {α : Type} [Scalar α] [Literal α]

/- A permutation of as many rows is an order of them. -/
private theorem isOrdering_of_perm
    {n : Nat}
    (hSize : n < 2 ^ 63)
    {ordering : List Int}
    (hPerm : ordering.Perm (Chance.identity n)) :
    IsOrdering n (.list (ordering.map .whole) : Value α)
      ordering :=
  isOrdering_whole hSize (Chance.length_of_perm hPerm)
    (Chance.isWithin_of_perm hPerm)

/-
  A significance takes the plain average of the observations,
  and then that of every surrogate, whatever else has happened
  to the estimator.  It fails where the plain average fails,
  with its error, and nowhere else.  Where permutations are to
  be drawn, there has to be room for as many as are asked for;
  otherwise nothing is computed at all.  They are those that
  the supply of chance has next, whichever these are, so long
  as they are permutations.
-/
theorem significance_surrogates
    {c : Context α}
    {m : Method α}
    (hMethod : c.estimator.method = some m)
    (hKraskov : m.IsKraskov)
    {data : Observations α}
    (hData : c.estimator.observations = some data)
    (hAligned : data.IsAligned)
    {chosen : Value α}
    {v : Variable}
    (hChosen : Variable.ofValue chosen = .ok v) :
    (∀ (count given : Value α) (items : List (Value α))
        (orderings : List (List Int)),
      given.items? = some items →
        List.Forall₂ (IsOrdering data.size) items orderings →
          Compares v orderings c
            (significance chosen count given c)) ∧
    ∀ count : Int, 1 ≤ count →
      let run := significance chosen (.whole count) .null c
      let chance := c.shared.chance
      let room : Except (Error α) Unit :=
        Tensor.checkSizes chance.room [count, data.size]
      let drawn :=
        (chance.permutations data.size count.toNat).1
      (∀ e, room = .error e → run = (⟨[], .error e⟩, c)) ∧
      (room = .ok () →
        chance.Permutes data.size →
          drawn.length = count ∧
            (∀ ordering ∈ drawn,
              ordering.Perm (Chance.identity data.size)) ∧
            Compares v drawn c run) := by
  constructor
  · intro count given items orderings hItems hOrderings
    have hGiven : given ≠ .null := by
      rintro rfl
      cases hItems
    have hTaken :=
      chosenOrderings_of_ne hData hChosen count hGiven
    rw [significance_eq, Transition.bind_of_read hTaken]
    exact
      compares_surrogates hMethod hData hAligned hKraskov
        hChosen hItems hOrderings c.shared
  · intro count hSome run chance room drawn
    have hTaken := chosenOrderings_of_count hData hChosen hSome
    have hRun :
        run =
          (chosenOrderings chosen (.whole count) .null >>=
            fun given => plainAverage >>=
              surrogates chosen given) c := by
      rw [← significance_eq]
    constructor
    · intro e hRoom
      change Tensor.checkSizes _ _ = _ at hRoom
      rw [hRoom] at hTaken
      rw [hRun, Transition.bind_error hTaken]
    · intro hRoom hPermutes
      change Tensor.checkSizes _ _ = _ at hRoom
      have hSize : data.size < 2 ^ 63 := by
        have hBounds :=
          Tensor.lengths_of_checkSizes hRoom data.size (by simp)
        omega
      have hLength : (drawn.length : Int) = count :=
        chance.length_permutations_toNat data.size (by omega)
      have hPerm :
          ∀ ordering ∈ drawn,
            ordering.Perm (Chance.identity data.size) :=
        hPermutes.perm_of_mem count.toNat
      let items : List (Value α) :=
        drawn.map fun ordering =>
          .list (ordering.map .whole)
      have hItems : (Value.list items).items? = some items :=
        rfl
      have hOrderings :
          List.Forall₂ (IsOrdering data.size) items drawn := by
        rw [List.forall₂_map_left_iff, List.forall₂_same]
        intro ordering hMem
        exact isOrdering_of_perm hSize (hPerm ordering hMem)
      rw [hRoom] at hTaken
      refine ⟨hLength, hPerm, ?_⟩
      rw [hRun, Transition.bind_ok hTaken]
      exact
        compares_surrogates hMethod hData hAligned hKraskov
          hChosen hItems hOrderings _

/- Orders of three points of doubles, given and drawn. -/
theorem significance_surrogates_doubles :
    let data : Observations Float :=
      ⟨⟨1, [[0], [1], [3]]⟩, ⟨1, [[0], [2], [1]]⟩,
        ⟨1, [[0], [0], [1]]⟩⟩
    let e : Estimator Float :=
      { Estimator.create (some (.counting .first))
          (.initial (.whole 1) (.count 2)) with
        observations := some data }
    let chance : Chance Float := .turning (2 ^ 40)
    let c : Context Float := ⟨e, .initial none chance⟩
    let orderings : List (List Int) := [[2, 0, -2], [0, 1, 2]]
    let items : List (Value Float) :=
      orderings.map fun ordering =>
        .list (ordering.map .whole)
    data.IsAligned ∧
      (∃ value,
        (average .null .null c).1.result = .ok value) ∧
      List.Forall₂ (IsOrdering data.size) items orderings ∧
      Compares .y orderings c
        (significance (.whole 2) .null (.list items) c) ∧
      chance.Permutes data.size ∧
      Compares .y [[1, 2, 0], [2, 0, 1], [0, 1, 2], [1, 2, 0]]
        c (significance (.whole 2) (.whole 4) .null c) := by
  intro data e chance c orderings items
  have hAligned : data.IsAligned := ⟨by decide, by decide⟩
  have hCounting : e.IsCounting .first 1 data :=
    { method := rfl
      observations := rfl
      isAligned := hAligned
      one_le_size := by decide
      size_lt := by decide
      neighbours := rfl
      one_le_neighbours := Nat.le_refl 1
      one_le_threads := by decide }
  have hAverage :
      ∃ value, (average .null .null c).1.result = .ok value :=
    hCounting.exists_average_iff.mpr (by decide)
  have hOrderings :
      List.Forall₂ (IsOrdering data.size) items orderings := by
    rw [List.forall₂_map_left_iff, List.forall₂_same]
    intro ordering hMem
    have hSize : data.size < 2 ^ 63 := by decide
    refine isOrdering_whole hSize ?_ ?_
    · revert ordering
      decide
    · revert ordering
      decide
  have hChosen :
      Variable.ofValue (.whole 2 : Value Float) = .ok .y := rfl
  have hRoom :
      Tensor.checkSizes (α := Float) chance.room
          [4, data.size] =
        .ok () := by
    change Tensor.checkSizes (2 ^ 40) [4, 3] = _
    rfl
  have hPermutes : chance.Permutes data.size :=
    Chance.permutes_turning data.size (2 ^ 40)
  rcases
      significance_surrogates (c := c) rfl (.counting .first)
        rfl hAligned hChosen with
    ⟨hGiven, hDrawn⟩
  rcases (hDrawn 4 (by decide)).2 hRoom hPermutes with
    ⟨-, -, hCompares⟩
  have hOrders :
      (c.shared.chance.permutations data.size
          (Int.toNat 4)).1 =
        [[1, 2, 0], [2, 0, 1], [0, 1, 2], [1, 2, 0]] := by
    change (chance.permutations 3 4).1 = _
    decide
  rw [hOrders] at hCompares
  exact
    ⟨hAligned, hAverage, hOrderings,
      hGiven .null (.list items) items orderings rfl hOrderings,
      hPermutes, hCompares⟩

/-
  More permutations than an array can hold cannot be drawn,
  although there is an average that they could be compared to.
-/
theorem significance_tooMany :
    let data : Observations Float :=
      ⟨⟨1, [[0], [1], [3]]⟩, ⟨1, [[0], [2], [1]]⟩,
        ⟨1, [[0], [0], [1]]⟩⟩
    let e : Estimator Float :=
      { Estimator.create (some (.counting .first))
          (.initial (.whole 1) (.count 1)) with
        observations := some data }
    let c : Context Float := ⟨e, .initial none default⟩
    let run :=
      significance (.whole 1) (.whole (10 ^ 30)) .null c
    (∃ value,
      (average .null .null c).1.result = .ok value) ∧
      run.1.result = .error .hugeSize ∧
      ∀ d, run.1.result ≠ .ok d := by
  intro data e c run
  have hCounting : e.IsCounting .first 1 data :=
    { method := rfl
      observations := rfl
      isAligned := ⟨by decide, by decide⟩
      one_le_size := by decide
      size_lt := by decide
      neighbours := rfl
      one_le_neighbours := Nat.le_refl 1
      one_le_threads := by decide }
  have hAverage :
      ∃ value, (average .null .null c).1.result = .ok value :=
    hCounting.exists_average_iff.mpr (by decide)
  have hData : c.estimator.observations = some data := rfl
  have hChosen :
      Variable.ofValue (.whole 1 : Value Float) = .ok .x := rfl
  have hSome : (1 : Int) ≤ 10 ^ 30 := by norm_num
  have hRoom :
      Tensor.checkSizes (α := Float) c.shared.chance.room
          [10 ^ 30, data.size] =
        .error .hugeSize := rfl
  have hTaken := chosenOrderings_of_count hData hChosen hSome
  rw [hRoom] at hTaken
  have hError : run.1.result = .error .hugeSize := by
    change (significance _ _ _ c).1.result = _
    rw [significance_eq, Transition.bind_error hTaken]
  refine ⟨hAverage, hError, ?_⟩
  intro d
  rw [hError]
  simp

end Context

end NeighbourInfo
