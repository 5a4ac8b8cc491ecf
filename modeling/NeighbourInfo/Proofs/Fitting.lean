import NeighbourInfo.Proofs.Estimator

/-
  Observations that fit the dimensions of their variables.

  Key definitions include:
    * `NeighbourInfo.Table.HasColumns`
    * `NeighbourInfo.Observations.Fits`

  The entries of an array fill its shape, so that the rows cut
  from them are as long as they should be.  What is done to a
  table from then on drops rows, joins rows or changes entries
  in their places; none of it changes the columns, and all of
  it changes the three variables in the same way.

  This is proven by:
    * `NeighbourInfo.Value.length_leaves`
    * `NeighbourInfo.Observations.fits_ofValues`
    * `NeighbourInfo.Observations.fits_masked`
    * `NeighbourInfo.Observations.fits_concat`
    * `NeighbourInfo.Observations.Fits.standardise`
    * `NeighbourInfo.Observations.Fits.withNoise`
-/

------------------------------------------------------------
-- Entries Of Arrays
------------------------------------------------------------

namespace NeighbourInfo

namespace Value

variable {α : Type}

mutual

/- An array has as many entries as its shape has room for. -/
theorem length_leaves
    (v : Value α)
    {shape : List Nat}
    (hShape : v.shape? = some shape) :
    v.leaves.length = shape.prod := by
  match v with
  | .list [] =>
      rw [shape?, Option.some.injEq] at hShape
      rw [leaves, leavesOf, ← hShape]
      rfl
  | .list (v :: vs) =>
      rw [shape?] at hShape
      cases hFirst : v.shape? with
      | none =>
          rw [hFirst] at hShape
          exact absurd hShape (by simp)
      | some inner =>
          rw [hFirst] at hShape
          by_cases hRest : haveShape inner vs = true
          · simp [hRest] at hShape
            rw [leaves, leavesOf, List.length_append,
              length_leaves v hFirst,
              length_leavesOf vs hRest, ← hShape,
              List.prod_cons, Nat.succ_mul, Nat.add_comm]
          · simp [hRest] at hShape
  | .null | .truth _ | .whole _ | .real _ | .text _
  | .record _ =>
      simp only [shape?, Option.some.injEq] at hShape
      simp [leaves, ← hShape]

/- So have several arrays of one shape together. -/
theorem length_leavesOf
    (vs : List (Value α))
    {shape : List Nat}
    (hShape : haveShape shape vs = true) :
    (leavesOf vs).length = vs.length * shape.prod := by
  match vs with
  | [] => simp [leavesOf]
  | v :: vs =>
      rw [haveShape, Bool.and_eq_true, beq_iff_eq] at hShape
      rw [leavesOf, List.length_append,
        length_leaves v hShape.1, length_leavesOf vs hShape.2,
        List.length_cons, Nat.succ_mul, Nat.add_comm]

end

/- A flat list has one entry for each of its items. -/
theorem prod_eq_length_items
    {v : Value α}
    {items : List (Value α)}
    (hItems : v.items? = some items)
    {shape : List Nat}
    (hShape : v.shape? = some shape)
    (hFlat : shape.length = 1) :
    shape.prod = items.length := by
  cases v with
  | list vs =>
      cases hItems
      cases items with
      | nil =>
          cases hShape
          rfl
      | cons v vs =>
          rw [shape?] at hShape
          rcases Option.bind_eq_some_iff.mp hShape with
            ⟨inner, -, hRest⟩
          split at hRest
          · cases hRest
            have hInner : inner = [] :=
              List.length_eq_zero_iff.mp (Nat.succ.inj hFlat)
            rw [hInner, List.prod_singleton]
          · cases hRest
  | null => cases hItems
  | truth b => cases hItems
  | whole n => cases hItems
  | real a => cases hItems
  | text s =>
      cases hShape
      cases hFlat
  | record fields =>
      cases hShape
      cases hFlat

end Value

end NeighbourInfo

------------------------------------------------------------
-- Reading Arrays
------------------------------------------------------------

namespace NeighbourInfo

namespace Tensor

variable {α β : Type}

/- What was read has the shape of the value. -/
theorem shape_of_ofValue
    {read : Value α → Except (Error α) β}
    {v : Value α}
    {t : Tensor β}
    (hOk : ofValue read v = .ok t) :
    v.shape? = some t.shape := by
  unfold ofValue at hOk
  cases hShape : v.arrayShape? with
  | none =>
      rw [hShape] at hOk
      cases hOk
  | some shape =>
      rw [hShape] at hOk
      rcases exists_of_bind_eq_ok hOk with ⟨entries, -, hOk⟩
      cases hOk
      exact (Option.filter_eq_some_iff.mp hShape).1

theorem mapM_leaves_of_ofValue
    {read : Value α → Except (Error α) β}
    {v : Value α}
    {t : Tensor β}
    (hOk : ofValue read v = .ok t) :
    v.leaves.mapM read = .ok t.entries := by
  unfold ofValue at hOk
  split at hOk
  · cases hOk
  · rcases exists_of_bind_eq_ok hOk with ⟨entries, hRead, hOk⟩
    cases hOk
    exact hRead

/- The entries that were read fill the shape. -/
theorem length_entries
    {read : Value α → Except (Error α) β}
    {v : Value α}
    {t : Tensor β}
    (hOk : ofValue read v = .ok t) :
    t.entries.length = t.shape.prod := by
  rw [length_of_mapM_eq_ok (mapM_leaves_of_ofValue hOk),
    Value.length_leaves v (shape_of_ofValue hOk)]

/- There are as many indices as there are items. -/
theorem length_of_indices
    [Scalar α] [Literal α]
    {v : Value α}
    {items : List (Value α)}
    (hItems : v.items? = some items)
    {read : List Int}
    (hOk : indices v = .ok read) :
    read.length = items.length := by
  unfold indices at hOk
  rcases exists_of_bind_eq_ok hOk with ⟨t, hRead, hOk⟩
  have hEntries := length_entries hRead
  have hShape := shape_of_ofValue hRead
  split at hOk
  · next hAxes =>
      cases hOk
      rw [hEntries]
      exact Value.prod_eq_length_items hItems hShape hAxes
  · cases hOk

end Tensor

end NeighbourInfo

------------------------------------------------------------
-- Tables Of A Given Width
------------------------------------------------------------

namespace NeighbourInfo

namespace Table

variable {α : Type}

/- The table has the given width, and so has every row. -/
structure HasColumns
    (width : Nat)
    (t : Table α) :
    Prop where
  width_eq : t.width = width
  isRectangular : t.IsRectangular

/- Rows are cut to the width where there is enough to cut. -/
theorem length_of_mem_cut
    {width : Nat}
    {entries : List α}
    {count : Nat}
    (hEnough : count * width ≤ entries.length) :
    ∀ row ∈ cut width entries count, row.length = width := by
  induction count generalizing entries with
  | zero => simp [cut]
  | succ count ih =>
      rw [Nat.succ_mul] at hEnough
      intro row hRow
      rw [cut, List.mem_cons] at hRow
      rcases hRow with rfl | hRow
      · rw [List.length_take]
        omega
      · refine ih ?_ row hRow
        rw [List.length_drop]
        omega

/- The table of a variable has the columns asked for. -/
theorem hasColumns_ofValue
    [Scalar α] [Literal α]
    {dim : Nat}
    {v : Value α}
    {t : Table α}
    (hOk : ofValue dim v = .ok t) :
    t.HasColumns dim := by
  unfold ofValue at hOk
  rcases exists_of_bind_eq_ok hOk with ⟨tensor, hRead, hOk⟩
  have hEntries := Tensor.length_entries hRead
  unfold ofTensor at hOk
  split at hOk
  · next count hShape =>
      split at hOk
      · next hDim =>
          cases hOk
          have hOne : (dim : Int) = 1 := by simpa using hDim
          refine ⟨by simp; omega, ?_⟩
          apply length_of_mem_cut
          simp [hEntries, hShape]
      · cases hOk
  · next count width hShape =>
      split at hOk
      · next hDim =>
          cases hOk
          have hWidth : (dim : Int) = width := by
            simpa using hDim
          refine ⟨by simp; omega, ?_⟩
          apply length_of_mem_cut
          simp [hEntries, hShape]
      · cases hOk
  · cases hOk

/- Rows that are kept stay as long as they are. -/
theorem HasColumns.retain
    {width : Nat}
    {t : Table α}
    (hColumns : t.HasColumns width)
    {mask : Mask}
    {kept : Table α}
    (hOk : t.retain mask = .ok kept) :
    kept.HasColumns width := by
  unfold Table.retain at hOk
  split at hOk
  · cases hOk
    refine ⟨hColumns.width_eq, ?_⟩
    intro row hRow
    have hBefore : row ∈ t.rows :=
      (Mask.keep_sublist mask t.rows).mem hRow
    exact hColumns.isRectangular row hBefore
  · cases hOk

/- Tables of one width make a table of that width. -/
theorem hasColumns_concat
    {width : Nat}
    {ts : List (Table α)}
    (hEach : ∀ t ∈ ts, t.HasColumns width) :
    (concat width ts).HasColumns width := by
  refine ⟨rfl, ?_⟩
  intro row hRow
  rcases List.mem_flatMap.mp hRow with ⟨t, hT, hRow⟩
  exact
    ((hEach t hT).isRectangular row hRow).trans
      (hEach t hT).width_eq

variable [Scalar α]

theorem HasColumns.standardise
    {width : Nat}
    {t : Table α}
    (hColumns : t.HasColumns width) :
    t.standardise.HasColumns width := by
  refine ⟨hColumns.width_eq, ?_⟩
  intro row hRow
  rcases List.mem_map.mp hRow with ⟨former, hFormer, rfl⟩
  have hLength := hColumns.isRectangular former hFormer
  simp [hLength, Table.standardise]

/- Noise changes the entries of a table in their places. -/
@[simp]
theorem size_withNoise
    (level : α)
    (c : Chance α)
    (t : Table α) :
    (t.withNoise level c).size = t.size := by
  simp [withNoise, size]

theorem HasColumns.withNoise
    {width : Nat}
    {t : Table α}
    (hColumns : t.HasColumns width)
    (level : α)
    (c : Chance α) :
    (t.withNoise level c).HasColumns width := by
  refine ⟨hColumns.width_eq, ?_⟩
  intro row hRow
  rcases List.mem_mapIdx.mp hRow with ⟨i, hI, rfl⟩
  have hFormer : t.rows[i] ∈ t.rows := List.getElem_mem hI
  rw [List.length_mapIdx]
  exact hColumns.isRectangular _ hFormer

end Table

end NeighbourInfo

------------------------------------------------------------
-- Observations Of Given Dimensions
------------------------------------------------------------

namespace NeighbourInfo

namespace Mask

variable {α β : Type}

/- As many items are kept of any two lists of one length. -/
theorem length_keep
    (mask : Mask)
    {as : List α}
    {bs : List β}
    (hLength : bs.length = as.length) :
    (mask.keep bs).length = (mask.keep as).length := by
  induction mask generalizing as bs with
  | nil => cases as <;> cases bs <;> rfl
  | cons m mask ih =>
      cases as with
      | nil =>
          rw [List.length_eq_zero_iff.mp hLength]
          rfl
      | cons a as =>
          cases bs with
          | nil => cases hLength
          | cons b bs =>
              have hRest := ih (Nat.succ.inj hLength)
              unfold keep
              split
              · exact congrArg Nat.succ hRest
              · exact hRest

end Mask

namespace Table

variable {α : Type}

theorem size_concat
    (width : Nat)
    (ts : List (Table α)) :
    (concat width ts).size = (ts.map size).sum := by
  unfold concat size
  rw [List.length_flatMap]

end Table

namespace Observations

variable {α : Type}

/-
  The tables have as many rows as each other, and each has the
  columns that its variable should have.
-/
structure Fits
    (dimensions : Dimensions)
    (data : Observations α) :
    Prop where
  isAligned : data.IsAligned
  x : data.x.HasColumns dimensions.x
  y : data.y.HasColumns dimensions.y
  z : data.z.HasColumns dimensions.z

variable {dimensions : Dimensions} {data : Observations α}

/- A mask keeps as many rows of each variable. -/
theorem Fits.retain
    (hFits : data.Fits dimensions)
    {mask : Mask}
    {kept : Observations α}
    (hOk : data.retain mask = .ok kept) :
    kept.Fits dimensions := by
  unfold Observations.retain at hOk
  rcases exists_of_bind_eq_ok hOk with ⟨x, hX, hOk⟩
  rcases exists_of_bind_eq_ok hOk with ⟨y, hY, hOk⟩
  rcases exists_of_bind_eq_ok hOk with ⟨z, hZ, hOk⟩
  cases hOk
  have hColumnsX := hFits.x.retain hX
  have hColumnsY := hFits.y.retain hY
  have hColumnsZ := hFits.z.retain hZ
  have hRows :
      ∀ {t kept : Table α}, t.retain mask = .ok kept →
        kept.rows = mask.keep t.rows := by
    intro t kept hKept
    unfold Table.retain at hKept
    split at hKept
    · cases hKept
      rfl
    · cases hKept
  refine ⟨⟨?_, ?_⟩, hColumnsX, hColumnsY, hColumnsZ⟩
  · change y.rows.length = x.rows.length
    rw [hRows hX, hRows hY]
    exact mask.length_keep hFits.isAligned.1
  · change z.rows.length = x.rows.length
    rw [hRows hX, hRows hZ]
    exact mask.length_keep hFits.isAligned.2

/- Chunks that fit give observations that fit. -/
theorem fits_concat
    {chunks : List (Observations α)}
    (hEach : ∀ chunk ∈ chunks, chunk.Fits dimensions)
    (hSome : (concat chunks).size ≠ 0) :
    (concat chunks).Fits dimensions := by
  cases chunks with
  | nil => exact absurd rfl hSome
  | cons first rest =>
      have hFirst := hEach first List.mem_cons_self
      have hColumns :
          ∀ (part : Observations α → Table α) (width : Nat),
            (∀ chunk ∈ first :: rest,
              (part chunk).HasColumns width) →
            (Table.concat (part first).width
                ((first :: rest).map part)).HasColumns
              width := by
        intro part width hPart
        rw [(hPart first List.mem_cons_self).width_eq]
        exact
          Table.hasColumns_concat
            (List.forall_mem_map.mpr hPart)
      have hSizes :
          ∀ part : Observations α → Table α,
            (∀ chunk ∈ first :: rest,
              (part chunk).size = chunk.x.size) →
            (Table.concat (part first).width
                ((first :: rest).map part)).size =
              (concat (first :: rest)).x.size := by
        intro part hPart
        change
          _ = (Table.concat first.x.width _).size
        rw [Table.size_concat, Table.size_concat,
          List.map_map, List.map_map]
        exact
          congrArg List.sum (List.map_congr_left hPart)
      exact
        ⟨⟨hSizes (·.y) fun c hC => (hEach c hC).isAligned.1,
            hSizes (·.z) fun c hC => (hEach c hC).isAligned.2⟩,
          hColumns (·.x) _ fun c hC => (hEach c hC).x,
          hColumns (·.y) _ fun c hC => (hEach c hC).y,
          hColumns (·.z) _ fun c hC => (hEach c hC).z⟩

variable [Scalar α]

theorem Fits.standardise
    (hFits : data.Fits dimensions) :
    data.standardise.Fits dimensions := by
  refine ⟨⟨?_, ?_⟩, hFits.x.standardise, hFits.y.standardise,
    hFits.z.standardise⟩
  · change data.y.standardise.size = data.x.standardise.size
    rw [Table.size_standardise, Table.size_standardise]
    exact hFits.isAligned.1
  · change data.z.standardise.size = data.x.standardise.size
    rw [Table.size_standardise, Table.size_standardise]
    exact hFits.isAligned.2

theorem Fits.withNoise
    (hFits : data.Fits dimensions)
    (level : α)
    (c : Chance α) :
    (data.withNoise level c).Fits dimensions := by
  refine ⟨⟨?_, ?_⟩, hFits.x.withNoise level c,
    hFits.y.withNoise level _, hFits.z.withNoise level _⟩
  · simp [Observations.withNoise, hFits.isAligned.1]
  · simp [Observations.withNoise, hFits.isAligned.2]

@[simp]
theorem size_withNoise
    (level : α)
    (c : Chance α)
    (data : Observations α) :
    (data.withNoise level c).size = data.size :=
  Table.size_withNoise level c data.x

/- So do observations that were prepared from chunks. -/
theorem Fits.prepared
    {chunks : List (Observations α)}
    (hFits : (concat chunks).Fits dimensions)
    (normalise : Bool) :
    (Observations.prepared normalise chunks).Fits
      dimensions := by
  cases normalise with
  | false => exact hFits
  | true => exact hFits.standardise

/- Preparing neither drops nor adds any rows. -/
theorem size_prepared
    (normalise : Bool)
    (chunks : List (Observations α)) :
    (Observations.prepared normalise chunks).size =
      (concat chunks).size := by
  cases normalise with
  | false => rfl
  | true => exact Table.size_standardise _

variable [Literal α]

/- The tables of a chunk are read to fit. -/
theorem fits_ofValues
    {x y z : Value α}
    (hOk : ofValues dimensions x y z = .ok data) :
    data.Fits dimensions := by
  unfold ofValues at hOk
  rcases exists_of_bind_eq_ok hOk with ⟨tx, hX, hOk⟩
  rcases exists_of_bind_eq_ok hOk with ⟨ty, hY, hOk⟩
  rcases exists_of_bind_eq_ok hOk with ⟨tz, hZ, hOk⟩
  split at hOk
  · next hSizes =>
      cases hOk
      exact
        ⟨⟨hSizes.1.symm, (hSizes.1.trans hSizes.2).symm⟩,
          Table.hasColumns_ofValue hX,
          Table.hasColumns_ofValue hY,
          Table.hasColumns_ofValue hZ⟩
  · cases hOk

theorem fits_masked
    (hFits : data.Fits dimensions)
    {mask : Value α}
    {kept : Observations α}
    (hOk : data.masked mask = .ok kept) :
    kept.Fits dimensions := by
  unfold masked at hOk
  split at hOk
  · cases hOk
    exact hFits
  · rcases exists_of_bind_eq_ok hOk with ⟨entries, -, hOk⟩
    exact hFits.retain hOk

end Observations

end NeighbourInfo
