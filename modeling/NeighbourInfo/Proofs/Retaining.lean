import NeighbourInfo.Proofs.Reading

/-
  Rows that masks retain.

  Key definitions include:
    * `NeighbourInfo.RowMask`
    * `NeighbourInfo.RowMask.keeps`
    * `NeighbourInfo.RowMask.IsWriting`
    * `NeighbourInfo.Batch`
    * `NeighbourInfo.Batch.origins`
    * `NeighbourInfo.Batch.whole`

  A mask gives each row a number, or several numbers.  Where
  they fit in a signed byte they are read as what they are,
  and a row is retained if all of its numbers are above zero.
  The rows that several batches retain come one after the
  other: each has an origin, a row of a batch, and it is the
  same for all three variables.

  This is proven by:
    * `NeighbourInfo.RowMask.keeps_of_ofValue`
    * `NeighbourInfo.Observations.eq_pick_of_retain`
    * `NeighbourInfo.Observations.eq_pick_of_masked`
    * `NeighbourInfo.Batch.mem_origins_iff`
    * `NeighbourInfo.Batch.pairwise_origins`
    * `NeighbourInfo.Batch.concat_kept`
-/

------------------------------------------------------------
-- Masks
------------------------------------------------------------

namespace NeighbourInfo

/-
  The mask of some rows: none at all, a number for each row,
  or several numbers for each row.
-/
inductive RowMask where
  | all
  | flat (entries : List Int)
  | grid (rows : List (List Int))
deriving DecidableEq, Repr, Inhabited

namespace RowMask

/- A row is kept if all of its numbers are above zero. -/
def keeps :
    RowMask → Nat → Bool
  | .all, _ => true
  | .flat entries, i => 0 < entries.getD i 0
  | .grid rows, i => (rows.getD i []).all (0 < ·)

/- The places of the rows that are kept of `n` rows. -/
def places
    (n : Nat)
    (mask : RowMask) :
    List Nat :=
  (List.range n).filter mask.keeps

/- All numbers of the mask. -/
def entries :
    RowMask → List Int
  | .all => []
  | .flat entries => entries
  | .grid rows => rows.flatten

/- All numbers fit in a signed byte. -/
def InRange
    (mask : RowMask) :
    Prop :=
  ∀ n ∈ mask.entries, -128 ≤ n ∧ n ≤ 127

instance
    (mask : RowMask) :
    Decidable mask.InRange :=
  inferInstanceAs (Decidable (∀ n ∈ mask.entries, _))

theorem mem_places_iff
    {mask : RowMask}
    {n i : Nat} :
    i ∈ mask.places n ↔ i < n ∧ mask.keeps i := by
  rw [places, List.mem_filter, List.mem_range]

variable {α : Type}

/- The mask as a value, each number in some writing. -/
def toValue
    (write : Int → Value α) :
    RowMask → Value α
  | .all => .null
  | .flat entries => .list (entries.map write)
  | .grid rows =>
      .list (rows.map fun row => .list (row.map write))

variable [Literal α]

/-
  Numbers are written as whole numbers, or all of them as
  scalars, which are truncated to what they stand for.
-/
inductive IsWriting
    (write : Int → Value α) :
    Prop where
  | whole (hWhole : ∀ n, write n = .whole n)
  | real
      (scalar : Int → α)
      (hReal : ∀ n, write n = .real (scalar n))
      (hTruncate :
        ∀ n, -128 ≤ n → n ≤ 127 →
          Literal.truncate? (scalar n) = some n)

end RowMask

end NeighbourInfo

------------------------------------------------------------
-- Reading Masks
------------------------------------------------------------

namespace NeighbourInfo

/- A mask of finite rows has nothing but zeros and ones. -/
theorem RowMask.inRange_finite
    {α : Type} [Scalar α]
    {v : Value α}
    {m : Mask}
    (hOk : Mask.finite v = .ok m) :
    (RowMask.flat m).InRange := by
  have hFlag :
      ∀ b, -128 ≤ Mask.flag b ∧ Mask.flag b ≤ 127 := by
    decide
  unfold Mask.finite at hOk
  rcases exists_of_bind_eq_ok hOk with ⟨t, hTensor, hMask⟩
  cases hMask
  intro n hN
  change n ∈ Mask.ofTensor t at hN
  unfold Mask.ofTensor at hN
  split at hN
  · rcases
        exists_of_mem_of_mapM
          (Tensor.mapM_leaves_of_ofValue hTensor) hN with
      ⟨leaf, -, hLeaf⟩
    cases leaf with
    | truth b =>
        cases hLeaf
        exact hFlag true
    | whole k =>
        rw [Mask.readFinite] at hLeaf
        split at hLeaf
        · cases hLeaf
          exact hFlag true
        · cases hLeaf
    | real a =>
        cases hLeaf
        exact hFlag _
    | null => cases hLeaf
    | text s => cases hLeaf
    | list vs => cases hLeaf
    | record fields => cases hLeaf
  · split at hN
    · rcases List.mem_map.mp hN with ⟨row, -, rfl⟩
      exact hFlag _
    · cases hN

/- What each value calls for alone is what all call for. -/
theorem Mask.readingOfAll_eq
    {α : Type}
    {vs : List (Value α)}
    (hSome : vs ≠ [])
    {reading : Reading}
    (hEach : ∀ v ∈ vs, readingOf v = reading)
    (hSigned : ∀ v ∈ vs, isUnsigned v = false) :
    readingOfAll vs = reading := by
  have hReadings :
      vs.map readingOf =
        List.replicate vs.length reading := by
    rw [List.eq_replicate_iff, List.length_map]
    exact ⟨rfl, List.forall_mem_map.mpr hEach⟩
  have hUnsigned : vs.any isUnsigned = false := by
    simpa using hSigned
  have hLength : vs.length ≠ 0 := by simpa using hSome
  cases reading with
  | words => simp [readingOfAll, hReadings, hUnsigned]
  | reals => simp [readingOfAll, hReadings, hLength]
  | texts => simp [readingOfAll, hReadings, hLength]
  | objects => simp [readingOfAll, hReadings, hLength]

namespace RowMask

variable {α : Type} [Literal α] {write : Int → Value α}

/- Numbers are written as single values. -/
theorem IsWriting.shape?_eq
    (hWriting : IsWriting write)
    (n : Int) :
    (write n).shape? = some [] := by
  cases hWriting with
  | whole hWhole =>
      rw [hWhole]
      rfl
  | real scalar hReal _ =>
      rw [hReal]
      rfl

theorem IsWriting.leaves_eq
    (hWriting : IsWriting write)
    (n : Int) :
    (write n).leaves = [write n] := by
  cases hWriting with
  | whole hWhole =>
      rw [hWhole]
      rfl
  | real scalar hReal _ =>
      rw [hReal]
      rfl

/- The numbers of a mask are its single values, row by row. -/
theorem leaves_toValue
    (hWriting : IsWriting write)
    {mask : RowMask}
    (hGiven : mask ≠ .all) :
    (mask.toValue write).leaves = mask.entries.map write := by
  cases mask with
  | all => exact absurd rfl hGiven
  | flat entries =>
      exact Value.leaves_singles hWriting.leaves_eq entries
  | grid rows =>
      rw [toValue, entries, Value.leaves_list,
        List.flatMap_map, List.map_flatten, List.flatMap_def]
      congr 1
      apply List.map_congr_left
      intro row _
      exact Value.leaves_singles hWriting.leaves_eq row

variable [Scalar α]

/-
  One reading does for all numbers that fit in a byte, and
  with it they are read as they are.
-/
private theorem IsWriting.exists_reading
    (hWriting : IsWriting write) :
    ∃ reading, ∀ n, -128 ≤ n ∧ n ≤ 127 →
      Mask.readingOf (write n) = reading ∧
        Mask.isUnsigned (write n) = false ∧
        Mask.readByte reading (write n) = .ok n := by
  cases hWriting with
  | whole hWhole =>
      refine ⟨.words, ?_⟩
      intro n hRange
      have hWord : Value.isWord n = true := by
        simp only [Value.isWord, Bool.and_eq_true,
          decide_eq_true_eq]
        omega
      rw [hWhole]
      refine ⟨if_pos hWord, decide_eq_false (by omega), ?_⟩
      change Except.ok (Mask.byte n) = Except.ok n
      rw [Mask.byte_eq_self hRange.1 (by omega)]
  | real scalar hReal hTruncate =>
      refine ⟨.reals, ?_⟩
      intro n hRange
      have hBits : -0x80000000 ≤ n ∧ n < 0x80000000 := by
        omega
      rw [hReal]
      refine ⟨rfl, rfl, ?_⟩
      change
        Except.ok (Mask.byteOfScalar (scalar n)) = Except.ok n
      rw [Mask.byteOfScalar, hTruncate n hRange.1 hRange.2]
      dsimp only
      rw [if_pos hBits, Mask.byte_eq_self hRange.1 (by omega)]

private theorem IsWriting.readBytes
    (hWriting : IsWriting write)
    {ns : List Int}
    (hRange : ∀ n ∈ ns, -128 ≤ n ∧ n ≤ 127) :
    (ns.map write).mapM
        (Mask.readByte (Mask.readingOfAll (ns.map write))) =
      .ok ns := by
  rcases hWriting.exists_reading with ⟨reading, hEach⟩
  by_cases hNone : ns = []
  · rw [hNone]
    rfl
  have hReading :
      Mask.readingOfAll (ns.map write) = reading := by
    apply Mask.readingOfAll_eq (by simpa using hNone)
    · exact
        List.forall_mem_map.mpr fun n hN =>
          (hEach n (hRange n hN)).1
    · exact
        List.forall_mem_map.mpr fun n hN =>
          (hEach n (hRange n hN)).2.1
  rw [hReading, mapM_eq_ok_iff, List.map_map]
  apply List.map_congr_left
  intro n hN
  exact (hEach n (hRange n hN)).2.2

/- The numbers that were read, in the shape they have. -/
theorem exists_shape_of_ofValue
    (hWriting : IsWriting write)
    {mask : RowMask}
    (hRange : mask.InRange)
    (hGiven : mask ≠ .all)
    {m : Mask}
    (hOk : Mask.ofValue (mask.toValue write) = .ok m) :
    ∃ shape,
      (mask.toValue write).shape? = some shape ∧
        m = Mask.ofTensor ⟨shape, mask.entries⟩ := by
  unfold Mask.ofValue at hOk
  rcases exists_of_bind_eq_ok hOk with ⟨t, hTensor, hMask⟩
  cases hMask
  have hRead := Tensor.mapM_leaves_of_ofValue hTensor
  rw [leaves_toValue hWriting hGiven,
    hWriting.readBytes hRange] at hRead
  rcases t with ⟨shape, entries⟩
  cases hRead
  exact ⟨shape, Tensor.shape_of_ofValue hTensor, rfl⟩

/- Beyond one axis the numbers of each row come together. -/
theorem ofTensor_rows
    {rows : List (List Int)}
    {width : Nat}
    {rest : List Nat}
    (hEach :
      ∀ row ∈ rows, row.length = (width :: rest).prod) :
    Mask.ofTensor
        ⟨rows.length :: width :: rest, rows.flatten⟩ =
      rows.map fun row => Mask.flag (row.all (0 < ·)) := by
  simp only [List.prod_eq_foldl] at hEach
  unfold Mask.ofTensor Table.alongFirstAxis?
  rw [if_neg (by simp [Tensor.axes])]
  dsimp only
  rw [Table.cut_flatten hEach]

/- A mask that can be read keeps the rows it should keep. -/
theorem keeps_of_ofValue
    (hWriting : IsWriting write)
    {mask : RowMask}
    (hRange : mask.InRange)
    (hGiven : mask ≠ .all)
    {m : Mask}
    (hOk : Mask.ofValue (mask.toValue write) = .ok m)
    {i : Nat}
    (hRow : i < m.length) :
    decide (0 < m.getD i 0) = mask.keeps i := by
  rcases
      exists_shape_of_ofValue hWriting hRange hGiven hOk with
    ⟨shape, hShape, rfl⟩
  cases mask with
  | all => exact absurd rfl hGiven
  | flat entries =>
      have hFlat :=
        Value.shape?_singles hWriting.shape?_eq entries
      cases hShape.symm.trans hFlat
      rfl
  | grid rows =>
      by_cases hNone : rows = []
      · subst hNone
        cases hShape
        exact absurd hRow (Nat.not_lt_zero i)
      · -- An array with rows has two axes, the second of which
        -- is as long as each of the rows.
        rcases
            Value.exists_of_shape?_list (by simpa using hNone)
              hShape with
          ⟨inner, rfl, hItems⟩
        have hInner : ∀ row ∈ rows, [row.length] = inner := by
          intro row hRow
          have hItem :=
            hItems _ (List.mem_map_of_mem hRow)
          rw [Value.shape?_singles hWriting.shape?_eq] at hItem
          exact Option.some.inj hItem
        rcases List.exists_mem_of_ne_nil rows hNone with
          ⟨first, hFirst⟩
        have hWidth := hInner first hFirst
        subst hWidth
        have hEach :
            ∀ row ∈ rows, row.length = [first.length].prod := by
          intro row hRow
          rw [List.prod_singleton]
          exact (List.cons.inj (hInner row hRow)).1
        rw [List.length_map, entries, ofTensor_rows hEach]
          at hRow ⊢
        rw [List.length_map] at hRow
        simp only [keeps, List.getD_eq_getElem?_getD,
          List.getElem?_map, List.getElem?_eq_getElem hRow,
          Option.map_some, Option.getD_some, Mask.flag]
        cases rows[i].all (0 < ·) with
        | false => rfl
        | true => rfl

end RowMask

end NeighbourInfo

------------------------------------------------------------
-- Retained Rows
------------------------------------------------------------

namespace NeighbourInfo

/- What is kept are the items at the places kept. -/
private theorem Mask.keep_eq_map
    {β : Type}
    {mask : Mask}
    {bs : List β}
    (hLength : mask.length = bs.length)
    (b : β) :
    mask.keep bs =
      ((List.range bs.length).filter fun i =>
          0 < mask.getD i 0).map
        fun i => bs.getD i b := by
  induction bs generalizing mask with
  | nil => rw [keep_nil]; rfl
  | cons first bs ih =>
      cases mask with
      | nil => cases hLength
      | cons m mask =>
          have hRest := ih (Nat.succ.inj hLength)
          rw [List.length_cons, List.range_succ_eq_map,
            List.filter_cons, List.filter_map]
          by_cases hKept : 0 < m
          · simp [keep, hKept, hRest, Function.comp_def]
          · simp [keep, hKept, hRest, Function.comp_def]

/- A mask of the right length picks the rows it keeps. -/
theorem Table.retain_eq_pick
    {α : Type}
    {mask : Mask}
    {t : Table α}
    (hLength : mask.length = t.size) :
    t.retain mask =
      .ok
        (t.pick
          ((List.range t.size).filter fun i =>
            0 < mask.getD i 0)) := by
  unfold retain
  rw [if_pos hLength, Mask.keep_eq_map hLength []]
  rfl

/- No other mask is accepted. -/
private theorem Table.eq_pick_of_retain
    {α : Type}
    {mask : Mask}
    {t kept : Table α}
    (hOk : t.retain mask = .ok kept) :
    mask.length = t.size ∧
      kept =
        t.pick
          ((List.range t.size).filter fun i =>
            0 < mask.getD i 0) := by
  by_cases hLength : mask.length = t.size
  · rw [retain_eq_pick hLength] at hOk
    exact ⟨hLength, (Except.ok.inj hOk).symm⟩
  · rw [retain, if_neg hLength] at hOk
    cases hOk

/- Of aligned tables a mask picks the same rows. -/
theorem Observations.eq_pick_of_retain
    {α : Type}
    {data kept : Observations α}
    (hAligned : data.IsAligned)
    {mask : Mask}
    (hOk : data.retain mask = .ok kept) :
    mask.length = data.size ∧
      kept =
        data.pick
          ((List.range data.size).filter fun i =>
            0 < mask.getD i 0) := by
  rcases exists_of_bind_eq_ok hOk with ⟨x, hX, hRest⟩
  rcases exists_of_bind_eq_ok hRest with ⟨y, hY, hRest⟩
  rcases exists_of_bind_eq_ok hRest with ⟨z, hZ, hRest⟩
  cases hRest
  rcases Table.eq_pick_of_retain hX with ⟨hLength, rfl⟩
  rcases Table.eq_pick_of_retain hY with ⟨-, rfl⟩
  rcases Table.eq_pick_of_retain hZ with ⟨-, rfl⟩
  rw [hAligned.1, hAligned.2]
  exact ⟨hLength, rfl⟩

/- A mask that is accepted picks the rows it keeps. -/
theorem Observations.eq_pick_of_masked
    {α : Type} [Scalar α] [Literal α]
    {data kept : Observations α}
    (hAligned : data.IsAligned)
    {write : Int → Value α}
    (hWriting : RowMask.IsWriting write)
    {mask : RowMask}
    (hRange : mask.InRange)
    (hOk : data.masked (mask.toValue write) = .ok kept) :
    kept = data.pick (mask.places data.size) := by
  by_cases hGiven : mask = .all
  · subst hGiven
    cases hOk
    have hPlaces :
        RowMask.all.places data.size = List.range data.size :=
      List.filter_eq_self.mpr fun _ _ => rfl
    rw [hPlaces, pick_range hAligned]
  · have hGivenMask :
        data.masked (mask.toValue write) =
          (Mask.ofValue (mask.toValue write)).bind
            data.retain := by
      cases mask with
      | all => exact absurd rfl hGiven
      | flat entries => rfl
      | grid rows => rfl
    rw [hGivenMask] at hOk
    rcases exists_of_bind_eq_ok hOk with ⟨m, hMask, hRetain⟩
    rcases eq_pick_of_retain hAligned hRetain with
      ⟨hLength, rfl⟩
    have hPlaces :
        ((List.range data.size).filter fun i =>
            0 < m.getD i 0) =
          mask.places data.size := by
      apply List.filter_congr
      intro i hI
      apply mask.keeps_of_ofValue hWriting hRange hGiven hMask
      rw [hLength]
      exact List.mem_range.mp hI
    rw [hPlaces]

end NeighbourInfo

------------------------------------------------------------
-- Batches
------------------------------------------------------------

namespace NeighbourInfo

/- Observations and the mask that they came with. -/
structure Batch (α : Type) where
  data : Observations α
  mask : RowMask
deriving Repr, Inhabited

namespace Batch

variable {α : Type}

/- The places of the rows that are retained. -/
def places
    (b : Batch α) :
    List Nat :=
  b.mask.places b.data.size

/- The rows that are retained. -/
def kept
    (b : Batch α) :
    Observations α :=
  b.data.pick b.places

/-
  Where the retained rows of all batches come from: the number
  of the batch, and the place among its rows.
-/
def origins
    (batches : List (Batch α)) :
    List (Nat × Nat) :=
  batches.zipIdx.flatMap fun (b, i) =>
    b.places.map fun row => (i, row)

/- The row that comes from there, in one of the tables. -/
def rowAt
    (batches : List (Batch α))
    (part : Observations α → Table α)
    (origin : Nat × Nat) :
    List α :=
  match batches[origin.1]? with
  | some b => (part b.data).rows.getD origin.2 []
  | none => []

/- All retained rows, those of one origin next to each other. -/
def whole
    (dimensions : Dimensions)
    (batches : List (Batch α)) :
    Observations α :=
  let rows (part : Observations α → Table α) :=
    (origins batches).map (rowAt batches part)
  ⟨⟨dimensions.x, rows (·.x)⟩, ⟨dimensions.y, rows (·.y)⟩,
    ⟨dimensions.z, rows (·.z)⟩⟩

/- Each row that a mask keeps is where a row comes from. -/
theorem mem_origins_iff
    {batches : List (Batch α)}
    {i row : Nat} :
    (i, row) ∈ origins batches ↔
      ∃ b,
        batches[i]? = some b ∧
          row < b.data.size ∧ b.mask.keeps row := by
  rw [origins, List.mem_flatMap]
  constructor
  · rintro ⟨⟨b, j⟩, hBatch, hRow⟩
    rcases List.mem_map.mp hRow with ⟨place, hPlace, hEq⟩
    cases hEq
    exact
      ⟨b, List.mem_zipIdx_iff_getElem?.mp hBatch,
        RowMask.mem_places_iff.mp hPlace⟩
  · rintro ⟨b, hBatch, hRow⟩
    exact
      ⟨(b, i), List.mem_zipIdx_iff_getElem?.mpr hBatch,
        List.mem_map.mpr
          ⟨row, RowMask.mem_places_iff.mpr hRow, rfl⟩⟩

/- Rows come batch by batch, and row by row of each batch. -/
theorem pairwise_origins
    (batches : List (Batch α)) :
    (origins batches).Pairwise fun p q =>
      p.1 < q.1 ∨ (p.1 = q.1 ∧ p.2 < q.2) := by
  rw [origins, List.pairwise_flatMap]
  constructor
  · rintro ⟨b, i⟩ _
    rw [List.pairwise_map]
    have hPlaces : b.places.Pairwise (· < ·) :=
      List.pairwise_lt_range.filter _
    exact hPlaces.imp fun hLt => Or.inr ⟨rfl, hLt⟩
  · have hNumbers :
        (batches.zipIdx.map Prod.snd).Pairwise (· < ·) := by
      rw [List.zipIdx_map_snd]
      exact List.pairwise_lt_range'
    rw [List.pairwise_map] at hNumbers
    refine hNumbers.imp ?_
    rintro ⟨b, i⟩ ⟨b', i'⟩ hLt p hP q hQ
    rcases List.mem_map.mp hP with ⟨row, -, rfl⟩
    rcases List.mem_map.mp hQ with ⟨row', -, rfl⟩
    exact Or.inl hLt

/- No row comes twice. -/
theorem nodup_origins
    (batches : List (Batch α)) :
    (origins batches).Nodup := by
  refine (pairwise_origins batches).imp ?_
  rintro p q hBefore rfl
  omega

/- The rows by their origins are those of batch after batch. -/
theorem map_rowAt_origins
    (batches : List (Batch α))
    (part : Observations α → Table α) :
    (origins batches).map (rowAt batches part) =
      batches.flatMap fun b =>
        ((part b.data).pick b.places).rows := by
  have hEach :
      (origins batches).map (rowAt batches part) =
        batches.zipIdx.flatMap fun p =>
          ((part p.1.data).pick p.1.places).rows := by
    rw [origins, List.map_flatMap]
    apply List.flatMap_congr
    rintro ⟨b, i⟩ hBatch
    rw [List.map_map]
    apply List.map_congr_left
    intro row _
    simp only [Function.comp_apply, rowAt,
      List.mem_zipIdx_iff_getElem?.mp hBatch]
  have hNumbers := List.zipIdx_map_fst 0 batches
  rw [hEach]
  conv_rhs => rw [← hNumbers, List.flatMap_map]

/- As many rows are put together as have an origin. -/
theorem size_concat_kept
    (batches : List (Batch α)) :
    (Observations.concat (batches.map kept)).size =
      (origins batches).length := by
  have hRows := map_rowAt_origins batches (·.x)
  have hLength := congrArg List.length hRows
  rw [List.length_map] at hLength
  rw [hLength]
  change
    (Table.concat _ ((batches.map kept).map (·.x))).rows.length =
      _
  rw [Table.concat, List.map_map, List.flatMap_map]
  rfl

/- The tables put together have the rows by their origins. -/
private theorem concat_parts
    {batches : List (Batch α)}
    {part : Observations α → Table α}
    (hPart :
      ∀ b : Batch α,
        part b.kept = (part b.data).pick b.places)
    {first width : Nat}
    (hColumns :
      (Table.concat first
        ((batches.map kept).map part)).HasColumns width) :
    Table.concat first ((batches.map kept).map part) =
      ⟨width, (origins batches).map (rowAt batches part)⟩ := by
  have hWidth : first = width := hColumns.width_eq
  rw [Table.concat, hWidth, map_rowAt_origins, List.map_map,
    List.flatMap_map]
  congr 2
  funext b
  exact congrArg Table.rows (hPart b)

/- There is one row for each origin. -/
@[simp]
theorem size_whole
    (dimensions : Dimensions)
    (batches : List (Batch α)) :
    (whole dimensions batches).size =
      (origins batches).length :=
  List.length_map _

section Fitting

variable {dimensions : Dimensions} {batches : List (Batch α)}
variable
  (hFits : ∀ b ∈ batches, b.data.Fits dimensions)
  (hSome : origins batches ≠ [])
include hFits hSome

theorem fits_concat_kept :
    (Observations.concat (batches.map kept)).Fits
      dimensions := by
  apply Observations.fits_concat
  · refine List.forall_mem_map.mpr ?_
    intro b hBatch
    apply (hFits b hBatch).pick
    intro i hI
    exact (RowMask.mem_places_iff.mp hI).1
  · rw [size_concat_kept]
    exact mt List.length_eq_zero_iff.mp hSome

/- What is put together are the rows by their origins. -/
theorem concat_kept :
    Observations.concat (batches.map kept) =
      whole dimensions batches := by
  have hWhole := fits_concat_kept hFits hSome
  rw [whole, ← concat_parts (fun _ => rfl) hWhole.x,
    ← concat_parts (fun _ => rfl) hWhole.y,
    ← concat_parts (fun _ => rfl) hWhole.z]
  rfl

theorem fits_whole :
    (whole dimensions batches).Fits dimensions := by
  rw [← concat_kept hFits hSome]
  exact fits_concat_kept hFits hSome

end Fitting

end Batch

end NeighbourInfo
