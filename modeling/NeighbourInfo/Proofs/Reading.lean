import NeighbourInfo.Proofs.Fitting

/-
  Reading tables row by row.

  Key definitions include:
    * `NeighbourInfo.Value.readRow`
    * `NeighbourInfo.Value.ofRows`
    * `NeighbourInfo.Table.IsRowShape`
    * `NeighbourInfo.Value.pick`

  An array is read as a whole, entry by entry, and then cut
  into rows.  Its items could as well have been read one after
  the other.  So the rows of a table can be told from the
  items that they were read from: items in another order give
  rows in that order, and single numbers the same rows as the
  lists with nothing but them.

  This is proven by:
    * `NeighbourInfo.Table.ofValue_list`
    * `NeighbourInfo.Table.exists_items_of_ofValue`
    * `NeighbourInfo.Table.ofValue_ofRows`
    * `NeighbourInfo.Table.ofValue_column`
    * `NeighbourInfo.Observations.ofValues_pick`
    * `NeighbourInfo.Observations.ofValues_ofRows`
-/

------------------------------------------------------------
-- Shapes And Entries Of Lists
------------------------------------------------------------

namespace NeighbourInfo

/- Results can be computed part by part. -/
theorem mapM_flatMap
    {ε β γ δ : Type}
    (f : β → Except ε γ)
    (items : δ → List β)
    (ds : List δ) :
    (ds.flatMap items).mapM f =
      (ds.mapM fun d => (items d).mapM f).map List.flatten := by
  induction ds with
  | nil => rfl
  | cons d ds ih =>
      rw [List.flatMap_cons, List.mapM_append, ih,
        List.mapM_cons]
      cases (items d).mapM f with
      | error e => rfl
      | ok part =>
          cases ds.mapM fun d => (items d).mapM f with
          | error e => rfl
          | ok parts => rfl

namespace Value

variable {α : Type}

private theorem haveShape_iff
    {shape : List Nat}
    {vs : List (Value α)} :
    haveShape shape vs ↔ ∀ v ∈ vs, v.shape? = some shape := by
  induction vs with
  | nil => simp [haveShape]
  | cons v vs ih => simp [haveShape, ih]

/- Items of one shape make an array with one axis more. -/
theorem shape?_list_iff
    {vs : List (Value α)}
    (hSome : vs ≠ [])
    {count : Nat}
    {shape : List Nat} :
    shape? (.list vs) = some (count :: shape) ↔
      count = vs.length ∧ ∀ v ∈ vs, v.shape? = some shape := by
  cases vs with
  | nil => exact absurd rfl hSome
  | cons v vs =>
      rw [List.forall_mem_cons, ← haveShape_iff, shape?]
      cases v.shape? with
      | none => simp
      | some inner =>
          by_cases hInner : inner = shape
          · rw [hInner]
            by_cases hRest : haveShape shape vs = true
            · simp only [hRest, Option.bind_eq_bind,
                Option.bind_some, if_true, Option.some.injEq,
                List.cons.injEq, and_true]
              exact eq_comm
            · simp [hRest]
          · by_cases hRest : haveShape inner vs = true
            · simp [hRest, hInner]
            · simp [hRest, hInner]

/- An array with items has as many as its first axis says. -/
theorem exists_of_shape?_list
    {vs : List (Value α)}
    (hSome : vs ≠ [])
    {shape : List Nat}
    (hShape : shape? (.list vs) = some shape) :
    ∃ inner,
      shape = vs.length :: inner ∧
        ∀ v ∈ vs, v.shape? = some inner := by
  cases shape with
  | nil =>
      cases vs with
      | nil => exact absurd rfl hSome
      | cons v vs =>
          rw [shape?] at hShape
          rcases Option.bind_eq_some_iff.mp hShape with
            ⟨inner, -, hRest⟩
          split at hRest
          · cases hRest
          · cases hRest
  | cons count inner =>
      rcases (shape?_list_iff hSome).mp hShape with
        ⟨rfl, hItems⟩
      exact ⟨inner, rfl, hItems⟩

theorem leaves_list
    (vs : List (Value α)) :
    leaves (.list vs) = vs.flatMap leaves := by
  rw [leaves]
  induction vs with
  | nil => rfl
  | cons v vs ih => rw [leavesOf, List.flatMap_cons, ih]

section Singles

variable {β : Type} {write : β → Value α}

/- A list of single values is an array of one axis. -/
theorem shape?_singles
    (hSingle : ∀ b, (write b).shape? = some [])
    (bs : List β) :
    shape? (.list (bs.map write)) = some [bs.length] := by
  by_cases hNone : bs = []
  · rw [hNone]
    rfl
  · rw [shape?_list_iff (by simpa using hNone)]
    exact
      ⟨by simp, List.forall_mem_map.mpr fun b _ => hSingle b⟩

theorem leaves_singles
    (hSingle : ∀ b, (write b).leaves = [write b])
    (bs : List β) :
    leaves (.list (bs.map write)) = bs.map write := by
  rw [leaves_list, List.flatMap_map, funext hSingle]
  exact List.map_eq_flatMap.symm

end Singles

variable [Scalar α] [Literal α]

/- Read all entries of one item. -/
def readRow
    (v : Value α) :
    Except (Error α) (List α) :=
  v.leaves.mapM toEntry

end Value

end NeighbourInfo

------------------------------------------------------------
-- Items And Rows
------------------------------------------------------------

namespace NeighbourInfo

namespace Table

variable {α : Type}

/- Rows are cut out of what they were put together to. -/
theorem cut_flatten
    {width : Nat}
    {rows : List (List α)}
    (hEach : ∀ row ∈ rows, row.length = width) :
    cut width rows.flatten rows.length = rows := by
  induction rows with
  | nil => rfl
  | cons row rows ih =>
      rw [List.forall_mem_cons] at hEach
      rw [List.flatten_cons, List.length_cons, cut,
        List.take_left' hEach.1, List.drop_left' hEach.1,
        ih hEach.2]

/-
  The shape of an item that is one row of a table: a number
  alone, if there is but one column, or a list.
-/
def IsRowShape
    (dim : Nat)
    (shape : List Nat) :
    Prop :=
  shape = [] ∧ dim = 1 ∨ shape = [dim]

private theorem IsRowShape.prod_eq
    {dim : Nat}
    {shape : List Nat}
    (hRow : IsRowShape dim shape) :
    shape.prod = dim := by
  rcases hRow with ⟨rfl, rfl⟩ | rfl
  · rfl
  · exact List.prod_singleton

variable [Scalar α] [Literal α]
variable {dim : Nat} {shape : List Nat}
variable {vs : List (Value α)} {rows : List (List α)}

/- Each row that was read has an entry for each column. -/
private theorem length_of_readRow
    (hRow : IsRowShape dim shape)
    (hItems : ∀ v ∈ vs, v.shape? = some shape)
    (hOk : vs.mapM Value.readRow = .ok rows) :
    ∀ row ∈ rows, row.length = dim := by
  intro row hMem
  rcases exists_of_mem_of_mapM hOk hMem with
    ⟨v, hV, hEntries⟩
  rw [length_of_mapM_eq_ok hEntries,
    Value.length_leaves v (hItems v hV), hRow.prod_eq]

/- A list of items is read item by item. -/
theorem ofValue_list
    (hSome : vs ≠ [])
    (hRow : IsRowShape dim shape)
    (hItems : ∀ v ∈ vs, v.shape? = some shape) :
    ofValue dim (.list vs) =
      (vs.mapM Value.readRow).map fun rows => ⟨dim, rows⟩ := by
  have hShape :
      Value.shape? (.list vs) = some (vs.length :: shape) :=
    (Value.shape?_list_iff hSome).mpr ⟨rfl, hItems⟩
  have hAxes : shape.length ≤ 1 := by
    rcases hRow with ⟨rfl, -⟩ | rfl
    · exact Nat.zero_le 1
    · exact Nat.le_refl 1
  have hArray :
      Value.arrayShape? (.list vs) =
        some (vs.length :: shape) := by
    rw [Value.arrayShape?, hShape, Option.filter_some]
    have hFew : (vs.length :: shape).length ≤ Value.maxAxes := by
      rw [List.length_cons, Value.maxAxes]
      omega
    exact if_pos (decide_eq_true hFew)
  have hLeaves :
      (Value.leaves (.list vs)).mapM Value.toEntry =
        (vs.mapM Value.readRow).map List.flatten := by
    rw [Value.leaves_list]
    exact mapM_flatMap Value.toEntry Value.leaves vs
  unfold ofValue Tensor.scalars Tensor.ofValue
  rw [hArray]
  dsimp only
  rw [hLeaves]
  cases hRead : vs.mapM Value.readRow with
  | error e => rfl
  | ok rows =>
      have hCut :
          cut dim rows.flatten vs.length = rows := by
        rw [← length_of_mapM_eq_ok hRead]
        exact cut_flatten (length_of_readRow hRow hItems hRead)
      change
        ofTensor (.whole dim)
            ⟨vs.length :: shape, rows.flatten⟩ =
          .ok ⟨dim, rows⟩
      rcases hRow with ⟨rfl, rfl⟩ | rfl
      · simp [ofTensor, hCut]
      · simp [ofTensor, hCut]

/- What was read was a list of items, one for each row. -/
theorem exists_items_of_ofValue
    {v : Value α}
    {t : Table α}
    (hOk : ofValue dim v = .ok t)
    (hSome : t.size ≠ 0) :
    ∃ vs shape,
      v = .list vs ∧ vs ≠ [] ∧ IsRowShape dim shape ∧
        (∀ item ∈ vs, item.shape? = some shape) ∧
        vs.mapM Value.readRow = .ok t.rows := by
  have hRead := hOk
  unfold ofValue at hRead
  rcases exists_of_bind_eq_ok hRead with
    ⟨tensor, hTensor, hTable⟩
  have hShape := Tensor.shape_of_ofValue hTensor
  have hAxes :
      ∃ count shape,
        tensor.shape = count :: shape ∧ IsRowShape dim shape ∧
          t.size = count := by
    unfold ofTensor at hTable
    split at hTable
    · next count hFlat =>
        split at hTable
        · next hDim =>
            cases hTable
            have hOne : dim = 1 := by
              simpa using hDim
            exact
              ⟨count, [], hFlat, Or.inl ⟨rfl, hOne⟩,
                length_cut _ _ _⟩
        · cases hTable
    · next count width hGrid =>
        split at hTable
        · next hDim =>
            cases hTable
            have hWidth : dim = width := by
              simpa using hDim
            exact
              ⟨count, [width], hGrid, Or.inr (by rw [hWidth]),
                length_cut _ _ _⟩
        · cases hTable
    · cases hTable
  rcases hAxes with ⟨count, shape, hCount, hRow, hSize⟩
  rw [hCount] at hShape
  cases v with
  | list vs =>
      have hVs : vs ≠ [] := by
        intro hNone
        rw [hNone, Value.shape?] at hShape
        cases hShape
        exact hSome hSize
      have hItems :=
        ((Value.shape?_list_iff hVs).mp hShape).2
      refine ⟨vs, shape, rfl, hVs, hRow, hItems, ?_⟩
      rw [ofValue_list hVs hRow hItems] at hOk
      cases hRows : vs.mapM Value.readRow with
      | error e =>
          rw [hRows] at hOk
          cases hOk
      | ok rows =>
          rw [hRows] at hOk
          cases hOk
          rfl
  | null => cases hShape
  | truth b => cases hShape
  | whole n => cases hShape
  | real a => cases hShape
  | text s => cases hShape
  | record fields => cases hShape

end Table

end NeighbourInfo

------------------------------------------------------------
-- Rows As Values
------------------------------------------------------------

namespace NeighbourInfo

namespace Value

variable {α : Type}

/- The rows of a table as a list of lists. -/
def ofRows
    (rows : List (List α)) :
    Value α :=
  .list (rows.map fun row => .list (row.map .real))

private theorem shape?_reals
    (row : List α) :
    shape? (.list (row.map .real)) = some [row.length] :=
  shape?_singles (fun _ => rfl) row

private theorem readRow_reals
    [Scalar α] [Literal α]
    (row : List α) :
    readRow (.list (row.map .real)) = .ok row := by
  rw [readRow, leaves_singles fun _ => rfl, mapM_eq_ok_iff,
    List.map_map]
  rfl

end Value

namespace Table

variable {α : Type} [Scalar α] [Literal α]
variable {dim : Nat}

/- Rows that were written are read. -/
theorem ofValue_ofRows
    {rows : List (List α)}
    (hSome : rows ≠ [])
    (hEach : ∀ row ∈ rows, row.length = dim) :
    ofValue dim (Value.ofRows rows) = .ok ⟨dim, rows⟩ := by
  have hItems :
      ∀ v ∈ rows.map fun row =>
          (Value.list (row.map .real) : Value α),
        v.shape? = some [dim] := by
    refine List.forall_mem_map.mpr ?_
    intro row hRow
    rw [Value.shape?_reals, hEach row hRow]
  have hRead :
      (rows.map fun row =>
          (Value.list (row.map .real) : Value α)).mapM
          Value.readRow =
        .ok rows := by
    rw [mapM_eq_ok_iff, List.map_map]
    apply List.map_congr_left
    intro row _
    exact Value.readRow_reals row
  rw [Value.ofRows,
    ofValue_list (by simpa using hSome) (Or.inr rfl) hItems,
    hRead]
  rfl

/- Numbers alone are read as the lists of a single column. -/
theorem ofValue_column
    (hDim : dim = 1)
    {vs : List (Value α)}
    (hItems : ∀ v ∈ vs, v.shape? = some []) :
    ofValue dim (.list (vs.map fun v => .list [v])) =
      ofValue dim (.list vs) := by
  by_cases hNone : vs = []
  · rw [hNone]
    rfl
  have hColumn :
      ∀ v ∈ vs.map fun v => (Value.list [v] : Value α),
        v.shape? = some [dim] := by
    refine List.forall_mem_map.mpr ?_
    intro v hV
    have hOne : ∀ item ∈ [v], item.shape? = some [] := by
      simpa using hItems v hV
    exact
      (Value.shape?_list_iff (List.cons_ne_nil v [])).mpr
        ⟨hDim, hOne⟩
  have hRead :
      ∀ v : Value α, (Value.list [v]).readRow = v.readRow := by
    intro v
    rw [Value.readRow, Value.readRow, Value.leaves_list,
      List.flatMap_singleton]
  have hMap : vs.map (fun v => Value.list [v]) ≠ [] := by
    simpa using hNone
  rw [ofValue_list hNone (Or.inl ⟨rfl, hDim⟩) hItems,
    ofValue_list hMap (Or.inr rfl) hColumn, List.mapM_map]
  congr 2
  funext v
  exact hRead v

end Table

end NeighbourInfo

------------------------------------------------------------
-- Picking Rows
------------------------------------------------------------

namespace NeighbourInfo

/- The items at some places of a list. -/
def Value.pick
    {α : Type}
    (places : List Nat) :
    Value α → Value α
  | .list vs => .list (places.map fun i => vs.getD i .null)
  | v => v

namespace Table

variable {α : Type}

/- The rows at some places of a table. -/
def pick
    (places : List Nat)
    (t : Table α) :
    Table α :=
  ⟨t.width, places.map fun i => t.rows.getD i []⟩

@[simp]
theorem size_pick
    (places : List Nat)
    (t : Table α) :
    (t.pick places).size = places.length :=
  List.length_map _

/- All places in order are all rows. -/
@[simp]
theorem pick_range
    (t : Table α) :
    t.pick (List.range t.size) = t := by
  have hRows :
      (List.range t.size).map (fun i => t.rows.getD i []) =
        t.rows := by
    apply List.ext_getElem
    · simp [size]
    · intro i hLeft hRight
      simp [hRight]
  rw [pick, hRows]

theorem HasColumns.pick
    {width : Nat}
    {t : Table α}
    (hColumns : t.HasColumns width)
    {places : List Nat}
    (hPlaces : ∀ i ∈ places, i < t.size) :
    (t.pick places).HasColumns width := by
  refine ⟨hColumns.width_eq, ?_⟩
  intro row hRow
  rcases List.mem_map.mp hRow with ⟨i, hI, rfl⟩
  rw [List.getD_eq_getElem _ _ (hPlaces i hI)]
  exact hColumns.isRectangular _ (List.getElem_mem _)

variable [Scalar α] [Literal α]

/- Picked items are read as the rows that are picked. -/
theorem ofValue_pick
    {dim : Nat}
    {v : Value α}
    {t : Table α}
    (hOk : ofValue dim v = .ok t)
    {places : List Nat}
    (hSome : places ≠ [])
    (hPlaces : ∀ i ∈ places, i < t.size) :
    ofValue dim (v.pick places) = .ok (t.pick places) := by
  have hWidth := (hasColumns_ofValue hOk).width_eq
  have hRows : t.size ≠ 0 := by
    rcases List.exists_mem_of_ne_nil places hSome with
      ⟨i, hI⟩
    have hPlace := hPlaces i hI
    omega
  rcases exists_items_of_ofValue hOk hRows with
    ⟨vs, shape, rfl, -, hRow, hItems, hRead⟩
  have hLength : vs.length = t.size :=
    (length_of_mapM_eq_ok hRead).symm
  have hEach := mapM_eq_ok_iff.mp hRead
  have hPicked :
      (places.map fun i => vs.getD i .null).mapM
          Value.readRow =
        .ok (t.pick places).rows := by
    rw [mapM_eq_ok_iff, pick, List.map_map, List.map_map]
    apply List.map_congr_left
    intro i hI
    have hPlace := hPlaces i hI
    have hItem : i < vs.length := by rwa [hLength]
    have hSame :
        (vs.map Value.readRow)[i]? =
          (t.rows.map Except.ok)[i]? := by
      rw [hEach]
    rw [List.getElem?_map, List.getElem?_map,
      List.getElem?_eq_getElem hItem,
      List.getElem?_eq_getElem hPlace] at hSame
    rw [Function.comp_apply, Function.comp_apply,
      List.getD_eq_getElem _ _ hItem,
      List.getD_eq_getElem _ _ hPlace]
    exact Option.some.inj hSame
  have hPickedItems :
      ∀ item ∈ places.map fun i => vs.getD i .null,
        item.shape? = some shape := by
    refine List.forall_mem_map.mpr ?_
    intro i hI
    have hItem : i < vs.length := by
      rw [hLength]
      exact hPlaces i hI
    apply hItems
    rw [List.getD_eq_getElem _ _ hItem]
    exact List.getElem_mem hItem
  rw [Value.pick,
    ofValue_list (by simpa using hSome) hRow hPickedItems,
    hPicked]
  change Except.ok _ = Except.ok _
  rw [← hWidth]
  rfl

end Table

namespace Observations

variable {α : Type}

/- The same places are picked in every table. -/
def pick
    (places : List Nat)
    (data : Observations α) :
    Observations α :=
  ⟨data.x.pick places, data.y.pick places,
    data.z.pick places⟩

@[simp]
theorem size_pick
    (places : List Nat)
    (data : Observations α) :
    (data.pick places).size = places.length :=
  data.x.size_pick places

theorem pick_range
    {data : Observations α}
    (hAligned : data.IsAligned) :
    data.pick (List.range data.size) = data := by
  have hY := data.y.pick_range
  have hZ := data.z.pick_range
  rw [hAligned.1] at hY
  rw [hAligned.2] at hZ
  unfold pick size
  rw [hY, hZ, Table.pick_range]

/- As many rows are picked from each of the tables. -/
theorem isAligned_pick
    (places : List Nat)
    (data : Observations α) :
    (data.pick places).IsAligned := by
  simp [IsAligned, pick]

/- Rows that are picked fit as they did. -/
theorem Fits.pick
    {dimensions : Dimensions}
    {data : Observations α}
    (hFits : data.Fits dimensions)
    {places : List Nat}
    (hPlaces : ∀ i ∈ places, i < data.size) :
    (data.pick places).Fits dimensions := by
  have hPlacesY : ∀ i ∈ places, i < data.y.size := by
    rwa [hFits.isAligned.1]
  have hPlacesZ : ∀ i ∈ places, i < data.z.size := by
    rwa [hFits.isAligned.2]
  exact
    ⟨isAligned_pick places data, hFits.x.pick hPlaces,
      hFits.y.pick hPlacesY, hFits.z.pick hPlacesZ⟩

variable [Scalar α] [Literal α]

theorem ofValues_pick
    {dimensions : Dimensions}
    {x y z : Value α}
    {chunk : Observations α}
    (hOk : ofValues dimensions x y z = .ok chunk)
    {places : List Nat}
    (hSome : places ≠ [])
    (hPlaces : ∀ i ∈ places, i < chunk.size) :
    ofValues dimensions (x.pick places) (y.pick places)
        (z.pick places) =
      .ok (chunk.pick places) := by
  unfold ofValues at hOk ⊢
  rcases exists_of_bind_eq_ok hOk with ⟨tx, hX, hOk⟩
  rcases exists_of_bind_eq_ok hOk with ⟨ty, hY, hOk⟩
  rcases exists_of_bind_eq_ok hOk with ⟨tz, hZ, hOk⟩
  split at hOk
  · next hSizes =>
      cases hOk
      have hPlacesY : ∀ i ∈ places, i < ty.size := by
        rw [← hSizes.1]
        exact hPlaces
      have hPlacesZ : ∀ i ∈ places, i < tz.size := by
        rw [← hSizes.2]
        exact hPlacesY
      rw [Table.ofValue_pick hX hSome hPlaces,
        Table.ofValue_pick hY hSome hPlacesY,
        Table.ofValue_pick hZ hSome hPlacesZ]
      have hPicked :
          (tx.pick places).size = (ty.pick places).size ∧
            (ty.pick places).size = (tz.pick places).size := by
        simp
      exact if_pos hPicked
  · cases hOk

/- Observations that were written are read. -/
theorem ofValues_ofRows
    {dimensions : Dimensions}
    {data : Observations α}
    (hFits : data.Fits dimensions)
    (hSome : data.size ≠ 0) :
    ofValues dimensions (Value.ofRows data.x.rows)
        (Value.ofRows data.y.rows) (Value.ofRows data.z.rows) =
      .ok data := by
  have hRead :
      ∀ {t : Table α} {dim : Nat}, t.HasColumns dim →
        t.size = data.x.size →
          Table.ofValue dim (Value.ofRows t.rows) = .ok t := by
    rintro ⟨_, rows⟩ dim ⟨rfl, hRows⟩ hSize
    apply Table.ofValue_ofRows _ hRows
    intro hNone
    subst hNone
    exact hSome hSize.symm
  unfold ofValues
  rw [hRead hFits.x rfl, hRead hFits.y hFits.isAligned.1,
    hRead hFits.z hFits.isAligned.2]
  exact
    if_pos
      ⟨hFits.isAligned.1.symm,
        hFits.isAligned.1.trans hFits.isAligned.2.symm⟩

end Observations

end NeighbourInfo
