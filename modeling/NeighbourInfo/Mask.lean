import NeighbourInfo.Table.Basic

/-
  Masks, which tell the rows to keep from the rows to drop.

  Key definitions include:
    * `NeighbourInfo.Mask`
    * `NeighbourInfo.Mask.ofTensor`
    * `NeighbourInfo.Mask.ofValue`
    * `NeighbourInfo.Mask.finite`
    * `NeighbourInfo.Table.retain`

  A mask has one signed byte for each row and keeps the rows
  whose byte is above zero.  Numbers wrap around to a byte
  when they are read, so only numbers from -128 to 127 are
  sure to keep their sign.
-/

------------------------------------------------------------
-- Masks
------------------------------------------------------------

namespace NeighbourInfo

/- The signed byte of every row. -/
abbrev Mask :=
  List Int

namespace Mask

/- The signed byte with the low eight bits of a number. -/
def byte
    (n : Int) :
    Int :=
  n.bmod 256

/- A number that fits in a signed byte stays what it is. -/
theorem byte_eq_self
    {n : Int}
    (hLow : -128 ≤ n)
    (hHigh : n < 128) :
    byte n = n := by
  apply Int.bmod_eq_of_le <;> omega

/- The byte of a truth value. -/
def flag
    (b : Bool) :
    Int :=
  if b then 1 else 0

/-
  The mask of an array of bytes.  Beyond one axis, a row is
  kept when all of its entries are above zero.
-/
def ofTensor
    (t : Tensor Int) :
    Mask :=
  if t.axes ≤ 1 then t.entries
  else
    match Table.alongFirstAxis? t with
    | some table =>
        table.rows.map fun row => flag (row.all (0 < ·))
    | none => []

end Mask

end NeighbourInfo

------------------------------------------------------------
-- Reading Masks
------------------------------------------------------------

namespace NeighbourInfo

namespace Mask

variable {α : Type} [Scalar α] [Literal α]

/- How the entries of a mask are turned into bytes. -/
inductive Reading where
  /- Whole numbers and truth values wrap around. -/
  | words
  /- Scalars among the numbers make all of them scalars. -/
  | reals
  /- Texts among the values make all of them texts. -/
  | texts
  /- A value of no common type leaves each as it is. -/
  | objects
deriving DecidableEq, Repr

/- One entry alone calls for this reading. -/
def readingOf :
    Value α → Reading
  | .truth _ => .words
  | .whole n => if Value.isWord n then .words else .objects
  | .real _ => .reals
  | .text _ => .texts
  | .null | .list _ | .record _ => .objects

/- The value is a word too large to have a sign. -/
def isUnsigned :
    Value α → Bool
  | .whole n => 0x8000000000000000 ≤ n
  | _ => false

/- The value is a word that has room for a sign. -/
def isSigned :
    Value α → Bool
  | .whole n => n < 0x8000000000000000
  | _ => false

/-
  The reading of several entries.  Signed and unsigned words
  have no common word type, so together they are scalars;
  truth values go with either.
-/
def readingOfAll
    (vs : List (Value α)) :
    Reading :=
  let readings := vs.map readingOf
  if readings.contains .objects then .objects
  else if readings.contains .texts then .texts
  else if readings.contains .reals then .reals
  else if vs.any isUnsigned && vs.any isSigned then .reals
  else .words

/-
  The byte of a scalar: it is truncated to a word of
  thirty-two bits first, which is zero in its low byte when
  the scalar does not fit.
-/
def byteOfScalar
    (a : α) :
    Int :=
  match Literal.truncate? a with
  | some n =>
      if -0x80000000 ≤ n ∧ n < 0x80000000 then byte n else 0
  | none => 0

/- The byte of a whole number that fits in one. -/
def exactByte
    (n : Int) :
    Except (Error α) Int :=
  if byte n = n then .ok n else .error .tooLarge

/- The text without the padding at its end. -/
def dropPadding
    (s : String) :
    String :=
  String.ofList
    (s.toList.reverse.dropWhile (· = '\x00')).reverse

/-
  The byte of a text among texts.  They are padded to one
  length, so that padding of its own at the end is lost.
-/
def byteOfText
    (s : String) :
    Except (Error α) Int := do
  let s := dropPadding s
  let n ← Value.readInt (.notWholeEntry s) s
  exactByte n

/-
  The byte of a value by itself, which is read as a whole
  number and has to fit.
-/
def byteOfObject
    (v : Value α) :
    Except (Error α) Int := do
  let n ← v.toInt
  exactByte n

/- The byte of one entry. -/
def readByte
    (reading : Reading)
    (v : Value α) :
    Except (Error α) Int :=
  match reading with
  | .words => do
      let n ← v.toInt
      return byte n
  | .reals => do
      let a ← v.toScalar
      return byteOfScalar a
  | .texts => byteOfText v.toText
  | .objects => byteOfObject v

/- Read a mask. -/
def ofValue
    (v : Value α) :
    Except (Error α) Mask := do
  let t ← Tensor.ofValue (readByte (readingOfAll v.leaves)) v
  return ofTensor t

end Mask

end NeighbourInfo

------------------------------------------------------------
-- Finite Rows
------------------------------------------------------------

namespace NeighbourInfo

namespace Mask

variable {α : Type} [Scalar α] [Literal α]

/- The value is a number, and it is finite. -/
def readFinite
    (v : Value α) :
    Except (Error α) Int :=
  match v with
  | .truth _ => .ok 1
  | .whole n =>
      if Value.isWord n then .ok 1 else .error .wrongKind
  | .real a => .ok (flag (Scalar.isFinite a))
  | .null | .text _ | .list _ | .record _ =>
      .error .wrongKind

/- The mask that keeps the rows with finite entries only. -/
def finite
    (v : Value α) :
    Except (Error α) Mask := do
  let t ← Tensor.ofValue readFinite v
  return ofTensor t

end Mask

end NeighbourInfo

------------------------------------------------------------
-- Retaining Rows
------------------------------------------------------------

namespace NeighbourInfo

namespace Mask

variable {α : Type}

/- The items whose entry of the mask is above zero. -/
def keep :
    Mask → List α → List α
  | m :: mask, a :: as =>
      if 0 < m then a :: keep mask as else keep mask as
  | _, _ => []

/- Nothing is kept of an empty list. -/
@[simp]
theorem keep_nil
    (mask : Mask) :
    keep mask ([] : List α) = [] := by
  cases mask <;> rfl

/- What is kept was there before, in the same order. -/
theorem keep_sublist
    (mask : Mask)
    (as : List α) :
    (keep mask as).Sublist as := by
  induction as generalizing mask with
  | nil => simp
  | cons a as ih =>
      cases mask with
      | nil => simp [keep]
      | cons m mask =>
          simp only [keep]
          split
          · exact (ih mask).cons_cons a
          · exact (ih mask).cons a

end Mask

namespace Table

variable {α : Type}

/- The rows that a mask keeps; it needs one entry a row. -/
def retain
    (mask : Mask)
    (t : Table α) :
    Except (Error α) (Table α) :=
  if mask.length = t.size then
    .ok ⟨t.width, mask.keep t.rows⟩
  else .error (.wrongMask mask.length t.size)

end Table

end NeighbourInfo
