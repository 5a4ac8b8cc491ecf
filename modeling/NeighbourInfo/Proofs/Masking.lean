import NeighbourInfo.Proofs.Retaining
import NeighbourInfo.Tensor.Rows

/-
  Masks of numbers of any size.

  Key definitions include:
    * `NeighbourInfo.Value.isNumeral`
    * `NeighbourInfo.Mask.mixes`
    * `NeighbourInfo.Mask.fits`
    * `NeighbourInfo.Mask.passes`
    * `NeighbourInfo.Mask.keptPlaces`
    * `NeighbourInfo.Mask.abovePlaces`

  A mask is meant to keep the rows whose numbers are all above
  zero.  It is read byte by byte, though: a number loses its
  fraction and all but its low eight bits, so it is the rest
  of its whole part by 256 that decides.  What was meant is
  what happens where no number has a fraction or bits to lose
  that would matter.

  This is proven by:
    * `NeighbourInfo.Mask.exists_of_fits`
    * `NeighbourInfo.Mask.ofValue_of_not_fits`
    * `NeighbourInfo.Mask.retain_numerals`
    * `NeighbourInfo.Mask.retain_wrapped`
-/

------------------------------------------------------------
-- Numbers Of Masks
------------------------------------------------------------

namespace NeighbourInfo

variable {α : Type} [Scalar α] [Literal α]

/- A whole number, or a scalar that has a whole part. -/
def Value.isNumeral :
    Value α → Bool
  | .whole _ => true
  | .real a => (Literal.truncate? a).isSome
  | _ => false

namespace Mask

/- The value is a scalar. -/
def isScalar :
    Value α → Bool
  | .real _ => true
  | _ => false

/-
  All numbers become scalars: there is one among them, or
  there are words that have no type of words in common.
-/
def mixes
    (vs : List (Value α)) :
    Bool :=
  vs.any isScalar || (vs.any isUnsigned && vs.any isSigned)

/-
  The numbers can be read together: the whole numbers are
  words, and finite where they become scalars.
-/
def fits
    (vs : List (Value α)) :
    Bool :=
  vs.all fun v =>
    match v with
    | .whole n =>
        Value.isWord n &&
          (!mixes vs || Scalar.isFinite (Scalar.ofInt n : α))
    | _ => true

/- The whole part of a number, read as a scalar or not. -/
def wholePart?
    (scalars : Bool) :
    Value α → Option Int
  | .whole n =>
      if scalars then Literal.truncate? (Scalar.ofInt n : α)
      else some n
  | .real a => Literal.truncate? a
  | _ => none

/-
  A whole part is good for its row if its rest by 256 lies
  from 1 to 127; that of a scalar has thirty-two bits.
-/
def isGood
    (scalars : Bool)
    (n : Int) :
    Bool :=
  (1 ≤ n % 256 && n % 256 ≤ 127) &&
    (!scalars || (-0x80000000 ≤ n && n < 0x80000000))

/- A number speaks for the row that it belongs to. -/
def passes
    (scalars : Bool)
    (v : Value α) :
    Bool :=
  (wholePart? scalars v).any (isGood scalars)

/- The places of the rows that the items of a mask keep. -/
def keptPlaces
    (items : List (Value α)) :
    List Nat :=
  let scalars := mixes (Value.list items).leaves
  (List.range items.length).filter fun i =>
    (items.getD i .null).leaves.all (passes scalars)

/- The number is above zero. -/
def isAboveZero
    (v : Value α) :
    Bool :=
  match v.isAbove 0 with
  | .ok above => above
  | .error _ => false

/- The places of the rows with numbers above zero only. -/
def abovePlaces
    (items : List (Value α)) :
    List Nat :=
  (List.range items.length).filter fun i =>
    (items.getD i .null).leaves.all isAboveZero

end Mask

end NeighbourInfo

------------------------------------------------------------
-- Bytes Of Numbers
------------------------------------------------------------

namespace NeighbourInfo

namespace Mask

/- A byte is above zero if the rest by 256 is in its half. -/
theorem byte_pos_iff
    (n : Int) :
    0 < byte n ↔ 1 ≤ n % 256 ∧ n % 256 ≤ 127 := by
  have hByte :
      byte n =
        if n % 256 < 128 then n % 256 else n % 256 - 256 :=
    rfl
  rw [hByte]
  omega

/- A byte that is not in range is no longer the number. -/
theorem byte_ne_self
    {n : Int}
    (hRange : n < -128 ∨ 127 < n) :
    byte n ≠ n := by
  have hByte :
      byte n =
        if n % 256 < 128 then n % 256 else n % 256 - 256 :=
    rfl
  rw [hByte]
  omega

/- The byte of a truth value is above zero if it holds. -/
theorem flag_pos_iff
    (b : Bool) :
    0 < flag b ↔ b := by
  cases b <;> decide

/- A number in the range of a byte is good if it is positive. -/
theorem isGood_eq_of_range
    (scalars : Bool)
    {n : Int}
    (hLow : -128 ≤ n)
    (hHigh : n ≤ 127) :
    isGood scalars n = decide (0 < n) := by
  have hHalf : (1 ≤ n % 256 ∧ n % 256 ≤ 127) ↔ 0 < n := by
    omega
  have hBits : -0x80000000 ≤ n ∧ n < 0x80000000 := by omega
  simp only [isGood, ← Bool.decide_and, hHalf, hBits,
    decide_true, Bool.or_true, Bool.and_true]

section Literals

variable {α : Type} [Literal α]

theorem byteOfScalar_pos_iff
    (a : α) :
    0 < byteOfScalar a ↔
      (Literal.truncate? a).any (isGood true) := by
  unfold byteOfScalar
  cases Literal.truncate? a with
  | none => simp
  | some n =>
      dsimp only
      split
      · next hBits => simp [isGood, hBits, byte_pos_iff]
      · next hBits =>
          simp only [Option.any_some, isGood, Bool.not_true,
            Bool.false_or, ← Bool.decide_and, hBits,
            decide_false, Bool.and_false, Int.lt_irrefl,
            Bool.false_eq_true]

end Literals

/- A whole number that has bits to lose does not fit. -/
theorem exactByte_cases
    {α : Type}
    (n : Int) :
    (exactByte n : Except (Error α) Int) = .ok n ∨
      (exactByte n : Except (Error α) Int) =
        .error .tooLarge := by
  unfold exactByte
  split
  · exact Or.inl rfl
  · exact Or.inr rfl

end Mask

/- There are two kinds of numbers. -/
theorem Value.cases_of_isNumeral
    {α : Type} [Literal α]
    {v : Value α}
    (hNumeral : v.isNumeral) :
    (∃ n, v = .whole n) ∨
      ∃ a n, v = .real a ∧ Literal.truncate? a = some n := by
  cases v with
  | whole n => exact Or.inl ⟨n, rfl⟩
  | real a =>
      rcases Option.isSome_iff_exists.mp hNumeral with ⟨n, hN⟩
      exact Or.inr ⟨a, n, rfl, hN⟩
  | null => cases hNumeral
  | truth b => cases hNumeral
  | text s => cases hNumeral
  | list vs => cases hNumeral
  | record fields => cases hNumeral

end NeighbourInfo

------------------------------------------------------------
-- Reading Numbers
------------------------------------------------------------

namespace NeighbourInfo

/-
  Where all refusals are alike, one of them is what several
  results come to.
-/
theorem mapM_eq_error
    {ε β γ : Type}
    {f : β → Except ε γ}
    {e : ε}
    {bs : List β}
    (hEach : ∀ b ∈ bs, (∃ c, f b = .ok c) ∨ f b = .error e)
    (hSome : ∃ b ∈ bs, f b = .error e) :
    bs.mapM f = .error e := by
  induction bs with
  | nil =>
      rcases hSome with ⟨b, hNone, -⟩
      cases hNone
  | cons b bs ih =>
      rw [List.forall_mem_cons] at hEach
      rw [List.mapM_cons]
      rcases hEach.1 with ⟨c, hHead⟩ | hHead
      · have hRest : ∃ b ∈ bs, f b = .error e := by
          rcases hSome with ⟨b', hMem, hRefused⟩
          rcases List.mem_cons.mp hMem with rfl | hLater
          · rw [hHead] at hRefused
            cases hRefused
          · exact ⟨b', hLater, hRefused⟩
        rw [hHead, ih hEach.2 hRest]
        rfl
      · rw [hHead]
        rfl

namespace Mask

section Readings

variable {α : Type} {vs : List (Value α)}

/- The whole numbers are words, so there is a common type. -/
theorem readingOfAll_of_words
    [Literal α]
    (hNumerals : ∀ v ∈ vs, v.isNumeral)
    (hWords : ∀ n, .whole n ∈ vs → Value.isWord n) :
    readingOfAll vs =
      if mixes vs then .reals else .words := by
  have hReadings :
      vs.map readingOf =
        vs.map fun v =>
          if isScalar v then Reading.reals else .words := by
    apply List.map_congr_left
    intro v hMem
    rcases Value.cases_of_isNumeral (hNumerals v hMem) with
      ⟨n, rfl⟩ | ⟨a, n, rfl, -⟩
    · exact if_pos (hWords n hMem)
    · rfl
  have hNever :
      ∀ reading, reading = .objects ∨ reading = .texts →
        (vs.map readingOf).contains reading = false := by
    intro reading hOther
    rw [hReadings, List.contains_eq_mem,
      decide_eq_false_iff_not, List.mem_map]
    rintro ⟨v, -, rfl⟩
    rcases hOther with hEq | hEq
    · split at hEq <;> cases hEq
    · split at hEq <;> cases hEq
  have hScalar :
      (vs.map readingOf).contains .reals =
        vs.any isScalar := by
    rw [hReadings, Bool.eq_iff_iff, List.contains_iff_mem,
      List.mem_map, List.any_eq_true]
    refine exists_congr fun v => and_congr_right fun _ => ?_
    cases isScalar v <;> simp
  simp only [readingOfAll, mixes, hNever .objects (Or.inl rfl),
    hNever .texts (Or.inr rfl), hScalar, Bool.false_eq_true,
    if_false, Bool.or_eq_true, ite_or]

/- A number that is no word leaves each number as it is. -/
theorem readingOfAll_of_not_word
    {n : Int}
    (hMem : .whole n ∈ vs)
    (hLarge : Value.isWord n = false) :
    readingOfAll vs = .objects := by
  have hReading :
      readingOf (.whole n : Value α) = .objects := by
    rw [readingOf, hLarge]
    rfl
  have hObject : Reading.objects ∈ vs.map readingOf :=
    List.mem_map.mpr ⟨_, hMem, hReading⟩
  have hContains :
      (vs.map readingOf).contains .objects = true :=
    List.contains_iff_mem.mpr hObject
  simp only [readingOfAll, hContains, if_true]

theorem fits_iff
    [Scalar α] :
    fits vs ↔
      ∀ n, .whole n ∈ vs →
        Value.isWord n ∧
          (mixes vs →
            Scalar.isFinite (Scalar.ofInt n : α)) := by
  unfold fits
  rw [List.all_eq_true]
  constructor
  · intro hAll n hMem
    have hWhole := hAll _ hMem
    rw [Bool.and_eq_true, Bool.or_eq_true,
      Bool.not_eq_true'] at hWhole
    refine ⟨hWhole.1, ?_⟩
    intro hMixes
    rw [hMixes] at hWhole
    simpa using hWhole.2
  · intro hAll v hMem
    cases v with
    | whole n =>
        rcases hAll n hMem with ⟨hWord, hFinite⟩
        dsimp only
        rw [hWord, Bool.true_and]
        cases hMixes : mixes vs with
        | true => simp [hFinite hMixes]
        | false => rfl
    | null => rfl
    | truth b => rfl
    | real a => rfl
    | text s => rfl
    | list vs => rfl
    | record fields => rfl

end Readings

variable {α : Type} [Scalar α] [Literal α]

/- The byte of a number, read as a scalar or not. -/
def byteOfNumeral
    (scalars : Bool) :
    Value α → Int
  | .whole n =>
      if scalars then byteOfScalar (Scalar.ofInt n : α)
      else byte n
  | .real a => byteOfScalar a
  | _ => 0

variable {vs : List (Value α)}
variable (hNumerals : ∀ v ∈ vs, v.isNumeral)
include hNumerals

/-
  Numbers that fit have a byte each, and it is above zero for
  those that speak for their row.
-/
theorem readByte_of_fits
    (hFits : fits vs)
    {v : Value α}
    (hMem : v ∈ vs) :
    readByte (readingOfAll vs) v =
        .ok (byteOfNumeral (mixes vs) v) ∧
      (0 < byteOfNumeral (mixes vs) v ↔
        passes (mixes vs) v) := by
  rw [fits_iff] at hFits
  rw [readingOfAll_of_words hNumerals
    fun n hN => (hFits n hN).1]
  cases hMixes : mixes vs with
  | true =>
      rcases Value.cases_of_isNumeral (hNumerals v hMem) with
        ⟨n, rfl⟩ | ⟨a, n, rfl, -⟩
      · have hFinite := (hFits n hMem).2 hMixes
        refine ⟨?_, byteOfScalar_pos_iff _⟩
        simp only [if_true, readByte, Value.toScalar,
          Value.scalarOfInt, hFinite]
        rfl
      · exact ⟨rfl, byteOfScalar_pos_iff a⟩
  | false =>
      rcases Value.cases_of_isNumeral (hNumerals v hMem) with
        ⟨n, rfl⟩ | ⟨a, n, rfl, -⟩
      · refine ⟨rfl, ?_⟩
        simp [byteOfNumeral, passes, wholePart?, isGood,
          byte_pos_iff]
      · have hScalar : mixes vs = true := by
          rw [mixes, Bool.or_eq_true, List.any_eq_true]
          exact Or.inl ⟨_, hMem, rfl⟩
        rw [hScalar] at hMixes
        cases hMixes

/- Numbers that do not fit are refused, whichever come first. -/
theorem mapM_readByte_of_not_fits
    (hFits : ¬ fits vs) :
    vs.mapM (readByte (readingOfAll vs)) =
      .error .tooLarge := by
  by_cases hWords : ∀ n, .whole n ∈ vs → Value.isWord n
  · -- The words become scalars, and not all of them can.
    simp only [fits_iff, not_forall, not_and] at hFits
    rcases hFits with ⟨n, hMem, hFinite⟩
    rcases hFinite (hWords n hMem) with ⟨hMixes, hLarge⟩
    rw [readingOfAll_of_words hNumerals hWords, hMixes]
    apply mapM_eq_error
    · intro v hMem
      rcases Value.cases_of_isNumeral (hNumerals v hMem) with
        ⟨n, rfl⟩ | ⟨a, n, rfl, -⟩
      · simp only [if_true, readByte, Value.toScalar,
          Value.scalarOfInt]
        split
        · exact Or.inl ⟨_, rfl⟩
        · exact Or.inr rfl
      · exact Or.inl ⟨_, rfl⟩
    · refine ⟨_, hMem, ?_⟩
      simp only [if_true, readByte, Value.toScalar,
        Value.scalarOfInt, if_neg hLarge]
      rfl
  · simp only [not_forall, Bool.not_eq_true] at hWords
    rcases hWords with ⟨n, hMem, hLarge⟩
    rw [readingOfAll_of_not_word hMem hLarge]
    apply mapM_eq_error
    · intro v hMem
      rcases Value.cases_of_isNumeral (hNumerals v hMem) with
        ⟨n, rfl⟩ | ⟨a, n, rfl, hN⟩
      · rcases exactByte_cases (α := α) n with hOk | hError
        · exact Or.inl ⟨n, hOk⟩
        · exact Or.inr hError
      · have hRead :
            readByte .objects (.real a) =
              (exactByte n : Except (Error α) Int) := by
          simp only [readByte, byteOfObject, Value.toInt, hN]
          rfl
        rw [hRead]
        rcases exactByte_cases (α := α) n with hOk | hError
        · exact Or.inl ⟨n, hOk⟩
        · exact Or.inr hError
    · refine ⟨_, hMem, if_neg (byte_ne_self ?_)⟩
      simp only [Value.isWord, Bool.and_eq_false_iff,
        decide_eq_false_iff_not] at hLarge
      omega

end Mask

end NeighbourInfo

------------------------------------------------------------
-- Rows Of Bytes
------------------------------------------------------------

namespace NeighbourInfo

/- The items of an array have as many entries as each other. -/
theorem Value.exists_of_shape?_items
    {α : Type}
    {items : List (Value α)}
    {shape : List Nat}
    (hShape : shape? (.list items) = some shape) :
    ∃ inner,
      shape = items.length :: inner ∧
        ∀ v ∈ items, v.leaves.length = inner.prod := by
  by_cases hNone : items = []
  · subst hNone
    cases hShape
    exact ⟨[], rfl, List.forall_mem_nil _⟩
  · rcases exists_of_shape?_list hNone hShape with
      ⟨inner, rfl, hItems⟩
    exact
      ⟨inner, rfl, fun v hV => length_leaves v (hItems v hV)⟩

namespace Mask

/-
  The mask of an array has an entry for each row, which is
  above zero if all bytes of the row are.
-/
private theorem exists_map_of_rows
    {rows : List (List Int)}
    {shape : List Nat}
    (hEach : ∀ row ∈ rows, row.length = shape.prod) :
    ∃ f : List Int → Int,
      ofTensor ⟨rows.length :: shape, rows.flatten⟩ =
          rows.map f ∧
        ∀ row ∈ rows, 0 < f row ↔ ∀ b ∈ row, 0 < b := by
  cases shape with
  | nil =>
      -- Each row is a single byte, which is its own entry.
      have hSingle :
          ∀ row ∈ rows, row = [row.headD 0] := by
        intro row hRow
        rcases List.length_eq_one_iff.mp (hEach row hRow) with
          ⟨b, rfl⟩
        rfl
      refine ⟨fun row => row.headD 0, ?_, ?_⟩
      · have hRows := List.map_congr_left hSingle
        rw [List.map_id'] at hRows
        change rows.flatten = _
        conv_lhs => rw [hRows]
        rw [← List.flatMap_def, ← List.map_eq_flatMap]
      · intro row hRow
        rw [hSingle row hRow]
        simp
  | cons width rest =>
      refine
        ⟨fun row => flag (row.all (0 < ·)),
          RowMask.ofTensor_rows hEach, ?_⟩
      intro row _
      rw [flag_pos_iff, List.all_eq_true]
      simp only [decide_eq_true_eq]

variable {α : Type} [Scalar α] [Literal α]
variable {items : List (Value α)}
variable
  (hArray : (Value.list items).arrayShape?.isSome)
  (hNumerals : ∀ v ∈ (Value.list items).leaves, v.isNumeral)
include hArray hNumerals

/- Numbers that fit keep the rows that they all speak for. -/
theorem exists_mask_of_fits
    (hFits : fits (Value.list items).leaves) :
    ∃ mask,
      ofValue (.list items) = .ok mask ∧
        mask.length = items.length ∧
        ((List.range items.length).filter fun i =>
            0 < mask.getD i 0) =
          keptPlaces items := by
  rcases Option.isSome_iff_exists.mp hArray with
    ⟨shape, hShape⟩
  rcases Value.exists_of_shape?_items
      (Option.filter_eq_some_iff.mp hShape).1 with
    ⟨inner, rfl, hLengths⟩
  have hLeaves := Value.leaves_list items
  let scalars := mixes (Value.list items).leaves
  let row (v : Value α) : List Int :=
    v.leaves.map (byteOfNumeral scalars)
  have hRow :
      ∀ v ∈ items,
        (∀ b ∈ row v, 0 < b) ↔ v.leaves.all (passes scalars) := by
    intro v hV
    rw [List.forall_mem_map, List.all_eq_true]
    refine forall₂_congr fun leaf hLeaf => ?_
    have hMem : leaf ∈ (Value.list items).leaves := by
      rw [hLeaves]
      exact List.mem_flatMap.mpr ⟨v, hV, hLeaf⟩
    exact (readByte_of_fits hNumerals hFits hMem).2
  have hRead :
      (Value.list items).leaves.mapM
          (readByte (readingOfAll (Value.list items).leaves)) =
        .ok (items.map row).flatten := by
    have hBytes :
        (items.map row).flatten =
          (Value.list items).leaves.map
            (byteOfNumeral scalars) := by
      rw [hLeaves, List.map_flatMap, List.flatMap_def]
    rw [hBytes, mapM_eq_ok_iff, List.map_map]
    apply List.map_congr_left
    intro leaf hMem
    exact (readByte_of_fits hNumerals hFits hMem).1
  have hEach :
      ∀ bytes ∈ items.map row, bytes.length = inner.prod := by
    refine List.forall_mem_map.mpr fun v hV => ?_
    rw [List.length_map, hLengths v hV]
  rcases exists_map_of_rows hEach with ⟨f, hMask, hSign⟩
  rw [List.length_map] at hMask
  refine ⟨(items.map row).map f, ?_, by simp, ?_⟩
  · unfold ofValue Tensor.ofValue
    rw [hShape]
    dsimp only
    rw [hRead]
    exact congrArg Except.ok hMask
  · apply List.filter_congr
    intro i hI
    have hI : i < items.length := List.mem_range.mp hI
    have hMem : items[i] ∈ items := List.getElem_mem hI
    have hItem : items.getD i .null = items[i] := by simp [hI]
    have hEntry :
        ((items.map row).map f).getD i 0 =
          f (row items[i]) := by
      simp [hI]
    rw [hItem, hEntry, Bool.eq_iff_iff, decide_eq_true_iff]
    exact
      (hSign _ (List.mem_map_of_mem hMem)).trans
        (hRow _ hMem)

theorem ofValue_of_not_fits
    (hFits : ¬ fits (Value.list items).leaves) :
    ofValue (.list items) = .error .tooLarge := by
  rcases Option.isSome_iff_exists.mp hArray with
    ⟨shape, hShape⟩
  unfold ofValue Tensor.ofValue
  rw [hShape]
  dsimp only
  rw [mapM_readByte_of_not_fits hNumerals hFits]
  rfl

/- What an operation with the mask comes to. -/
theorem bind_ofValue
    {β : Type}
    (f : Mask → Except (Error α) β)
    (b : β)
    (hKept :
      ∀ mask : Mask,
        mask.length = items.length →
        ((List.range items.length).filter fun i =>
            0 < mask.getD i 0) =
          keptPlaces items →
        f mask = .ok b) :
    (ofValue (.list items)).bind f =
      if fits (Value.list items).leaves then .ok b
      else .error .tooLarge := by
  split
  · next hFits =>
      rcases exists_mask_of_fits hArray hNumerals hFits with
        ⟨mask, hMask, hLength, hPlaces⟩
      rw [hMask]
      exact hKept mask hLength hPlaces
  · next hFits =>
      rw [ofValue_of_not_fits hArray hNumerals hFits]
      rfl

end Mask

end NeighbourInfo

------------------------------------------------------------
-- Rows Kept
------------------------------------------------------------

namespace NeighbourInfo

namespace Mask

variable {α : Type} [Scalar α] [Literal α]

/-
  Numbers that are what their bytes are, up to a fraction that
  does not bring them above zero, keep the rows meant.
-/
theorem keptPlaces_eq_abovePlaces
    {items : List (Value α)}
    (hRange :
      ∀ v ∈ (Value.list items).leaves, ∃ n,
        wholePart? (mixes (Value.list items).leaves) v =
            some n ∧
          -128 ≤ n ∧ n ≤ 127 ∧
          v.isAbove 0 = .ok (decide (0 < n))) :
    keptPlaces items = abovePlaces items := by
  apply List.filter_congr
  intro i hI
  have hI : i < items.length := List.mem_range.mp hI
  have hItem : items.getD i .null = items[i] := by simp [hI]
  rw [hItem, Bool.eq_iff_iff, List.all_eq_true,
    List.all_eq_true]
  refine forall₂_congr fun leaf hLeaf => ?_
  have hMem : leaf ∈ (Value.list items).leaves := by
    rw [Value.leaves_list]
    exact
      List.mem_flatMap.mpr
        ⟨_, List.getElem_mem hI, hLeaf⟩
  rcases hRange leaf hMem with
    ⟨n, hPart, hLow, hHigh, hAbove⟩
  rw [passes, hPart, Option.any_some,
    isGood_eq_of_range _ hLow hHigh, isAboveZero, hAbove]

section Items

variable {items : List (Value α)}
variable
  (hArray : (Value.list items).arrayShape?.isSome)
  (hNumerals : ∀ v ∈ (Value.list items).leaves, v.isNumeral)
include hArray hNumerals

/- An array keeps the rows with all that is laid along them. -/
private theorem retain_rows
    {t : Tensor α}
    {table : Table α}
    (hTable : t.rowTable = .ok table)
    (hSize : table.size = items.length) :
    (ofValue (.list items)).bind (fun mask => t.retain mask) =
      if fits (Value.list items).leaves then
        .ok
          ((table.pick (keptPlaces items)).toTensor t.restShape)
      else .error .tooLarge := by
  apply bind_ofValue hArray hNumerals
  intro mask hLength hPlaces
  rw [← hSize] at hLength hPlaces
  unfold Tensor.retain
  rw [hTable]
  change
    (table.retain mask).bind
        (fun kept => .ok (kept.toTensor t.restShape)) =
      _
  rw [Table.retain_eq_pick hLength, hPlaces]
  rfl

/- Each table of some observations keeps the same rows. -/
private theorem masked_rows
    {data : Observations α}
    (hAligned : data.IsAligned)
    (hSize : data.size = items.length) :
    data.masked (.list items) =
      if fits (Value.list items).leaves then
        .ok (data.pick (keptPlaces items))
      else .error .tooLarge := by
  apply bind_ofValue hArray hNumerals
  intro mask hLength hPlaces
  rw [← hSize] at hLength hPlaces
  have hY :=
    Table.retain_eq_pick (hLength.trans hAligned.1.symm)
  have hZ :=
    Table.retain_eq_pick (hLength.trans hAligned.2.symm)
  unfold Observations.retain
  rw [Table.retain_eq_pick hLength, hY, hZ, hAligned.1,
    hAligned.2, ← hPlaces]
  rfl

end Items

/-
  Every mask of numbers is refused as a whole if the numbers
  have no type in common.  Otherwise the rows are kept, in
  order, of which all numbers have a whole part whose rest by
  256 lies from 1 to 127: by an array, and by each table of
  observations that are added.  These are the rows with
  numbers above zero only if no number is out of the range of
  a byte, and no fraction is all that is above zero.
-/
theorem retain_numerals
    {items : List (Value α)}
    (hArray : (Value.list items).arrayShape?.isSome)
    (hNumerals :
      ∀ v ∈ (Value.list items).leaves, v.isNumeral) :
    (∀ (t : Tensor α) (table : Table α),
      t.rowTable = .ok table →
      table.size = items.length →
      (ofValue (.list items)).bind (fun mask => t.retain mask) =
        if fits (Value.list items).leaves then
          .ok
            ((table.pick (keptPlaces items)).toTensor
              t.restShape)
        else .error .tooLarge) ∧
    (∀ (e : Estimator α) (chunks : List (Observations α))
        (x y z : Value α) (chunk : Observations α),
      e.pending = some chunks →
      Observations.ofValues e.dimensions x y z = .ok chunk →
      chunk.size = items.length →
      e.add x y z (.list items) =
        if fits (Value.list items).leaves then
          .ok
            { e with
              pending :=
                some
                  (chunks ++
                    [chunk.pick (keptPlaces items)]) }
        else .error .tooLarge) ∧
    ((∀ v ∈ (Value.list items).leaves, ∃ n,
        wholePart? (mixes (Value.list items).leaves) v =
            some n ∧
          -128 ≤ n ∧ n ≤ 127 ∧
          v.isAbove 0 = .ok (decide (0 < n))) →
      keptPlaces items = abovePlaces items) := by
  refine ⟨?_, ?_, keptPlaces_eq_abovePlaces⟩
  · intro t table hTable hSize
    exact retain_rows hArray hNumerals hTable hSize
  · intro e chunks x y z chunk hPending hChunk hSize
    have hOpen : e.openChunks = .ok chunks := by
      rw [Estimator.openChunks, hPending]
    have hAligned := (Observations.fits_ofValues hChunk).1
    have hMasked :=
      masked_rows hArray hNumerals hAligned hSize
    unfold Estimator.add
    rw [hOpen, hChunk]
    change (chunk.masked (.list items)).bind _ = _
    rw [hMasked]
    split
    · rfl
    · rfl

/-
  Three rows with the numbers 1.5, 0.5 and 257.0: the fraction
  alone drops a row, and 257.0 keeps its row as 1.5 does.
-/
theorem retain_numerals_doubles :
    let items : List (Value Float) :=
      [.real 1.5, .real 0.5, .real 257]
    let t : Tensor Float := ⟨[3, 1], [1, 2, 3]⟩
    let e : Estimator Float :=
      { Estimator.create none
          (Settings.initial (.whole 4) (.count 4)) with
        dimensions := ⟨1, 1, 1⟩
        isInitialised := true
        pending := some [] }
    let column : Value Float :=
      .list [.real 1, .real 2, .real 3]
    let kept : Table Float := ⟨1, [[1], [3]]⟩
    (ofValue (.list items)).bind (fun mask => t.retain mask) =
        .ok ⟨[2, 1], [1, 3]⟩ ∧
      e.add column column column (.list items) =
        .ok { e with pending := some [⟨kept, kept, kept⟩] } := by
  intro items t e column kept
  have hArray : (Value.list items).arrayShape?.isSome := rfl
  have hNumerals :
      ∀ v ∈ (Value.list items).leaves, v.isNumeral := by
    rw [← List.all_eq_true]
    rfl
  have hFits : fits (Value.list items).leaves = true := rfl
  have hPlaces : keptPlaces items = [0, 2] := rfl
  rcases retain_numerals hArray hNumerals with
    ⟨hRetain, hAdd, -⟩
  have hKept := hRetain t ⟨1, [[1], [2], [3]]⟩ rfl rfl
  let table : Table Float := ⟨1, [[1], [2], [3]]⟩
  have hAdded :=
    hAdd e [] column column column ⟨table, table, table⟩
      rfl rfl rfl
  rw [hFits, hPlaces] at hKept hAdded
  exact ⟨hKept, hAdded⟩

/-
  The numbers of the first two rows are above zero, but it is
  the last two rows that are kept: 256 is read as 0, and -200
  as 56.
-/
theorem retain_wrapped :
    let items : List (Value Float) :=
      [.whole 256, .whole 1, .whole (-200)]
    let t : Tensor Float := ⟨[3, 1], [1, 2, 3]⟩
    abovePlaces items = [0, 1] ∧
      (ofValue (.list items)).bind (fun mask => t.retain mask) =
        .ok ⟨[2, 1], [2, 3]⟩ := by
  intro items t
  exact ⟨rfl, rfl⟩

end Mask

end NeighbourInfo
