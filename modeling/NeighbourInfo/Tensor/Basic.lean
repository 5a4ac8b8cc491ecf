import NeighbourInfo.Value.Number

/-
  Arrays of any number of axes.

  Key definitions include:
    * `NeighbourInfo.Value.shape?`
    * `NeighbourInfo.Value.arrayShape?`
    * `NeighbourInfo.Tensor`
    * `NeighbourInfo.Tensor.ofValue`
    * `NeighbourInfo.Tensor.scalars`
    * `NeighbourInfo.Tensor.indices`
    * `NeighbourInfo.Tensor.checkSizes`
    * `NeighbourInfo.Tensor.readLength`

  A nested list is an array when lists at the same depth have
  the same length and are not nested too deeply.  A single
  value is an array without axes.
-/

------------------------------------------------------------
-- Shapes Of Values
------------------------------------------------------------

namespace NeighbourInfo

namespace Value

variable {α : Type}

mutual

/- The lengths of an array along its axes. -/
def shape? :
    Value α → Option (List Nat)
  | .list [] => some [0]
  | .list (v :: vs) => do
      let shape ← shape? v
      if haveShape shape vs then
        some ((v :: vs).length :: shape)
      else none
  | _ => some []

/- All values are arrays of the given shape. -/
def haveShape
    (shape : List Nat) :
    List (Value α) → Bool
  | [] => true
  | v :: vs => shape? v == some shape && haveShape shape vs

end

/- The most axes that an array can have. -/
def maxAxes :
    Nat :=
  64

/- The lengths of an array that has not too many axes. -/
def arrayShape?
    (v : Value α) :
    Option (List Nat) :=
  v.shape?.filter fun shape => shape.length ≤ maxAxes

mutual

/- The single values of an array, the last axis fastest. -/
def leaves :
    Value α → List (Value α)
  | .list vs => leavesOf vs
  | v => [v]

/- The single values of several arrays in order. -/
def leavesOf :
    List (Value α) → List (Value α)
  | [] => []
  | v :: vs => leaves v ++ leavesOf vs

end

end Value

end NeighbourInfo

------------------------------------------------------------
-- Arrays
------------------------------------------------------------

namespace NeighbourInfo

/-
  An array: its lengths along each axis and its entries, the
  last axis fastest.
-/
structure Tensor (β : Type) where
  shape : List Nat
  entries : List β
deriving DecidableEq, Repr, Inhabited

namespace Tensor

variable {α β : Type}

/- The number of axes. -/
def axes
    (t : Tensor β) :
    Nat :=
  t.shape.length

/-
  Read an array entry by entry.  Its shape is checked before
  any entry is read.
-/
def ofValue
    (read : Value α → Except (Error α) β)
    (v : Value α) :
    Except (Error α) (Tensor β) :=
  match v.arrayShape? with
  | none => .error .ragged
  | some shape => do
      let entries ← v.leaves.mapM read
      return ⟨shape, entries⟩

/-
  The array laid out column by column if that is asked for.
  The entries are the same in either layout, but it takes an
  axis to lay them out along.
-/
def laidOut
    (byColumn : Bool)
    (t : Tensor β) :
    Tensor β :=
  if byColumn && t.shape.isEmpty then ⟨[1], t.entries⟩
  else t

/-
  Arrays of two shapes go together, entry by entry: from the
  last axis on, their lengths are equal or one of them is one.
-/
def goTogether
    (s : List Nat)
    (t : List Nat) :
    Bool :=
  (s.reverse.zip t.reverse).all fun (m, n) =>
    m == n || m == 1 || n == 1

/- Read an array of scalars. -/
def scalars
    [Scalar α] [Literal α]
    (v : Value α) :
    Except (Error α) (Tensor α) :=
  ofValue Value.toEntry v

end Tensor

end NeighbourInfo

------------------------------------------------------------
-- Index Lists
------------------------------------------------------------

namespace NeighbourInfo

namespace Tensor

variable {α : Type} [Scalar α] [Literal α]

/- The number fits in sixty-four bits, one of them a sign. -/
def IsIndex
    (n : Int) :
    Prop :=
  -0x8000000000000000 ≤ n ∧ n < 0x8000000000000000

instance
    (n : Int) :
    Decidable (IsIndex n) :=
  inferInstanceAs (Decidable (_ ∧ _))

/- A whole number that fits in sixty-four bits. -/
def toIndex
    (v : Value α) :
    Except (Error α) Int := do
  let n ← v.toInt
  if IsIndex n then return n
  else throw .tooLarge

/- Read a flat list of indices. -/
def indices
    (v : Value α) :
    Except (Error α) (List Int) := do
  let t ← ofValue toIndex v
  if t.axes = 1 then return t.entries
  else throw .nestedIndices

end Tensor

end NeighbourInfo

------------------------------------------------------------
-- Sizes
------------------------------------------------------------

namespace NeighbourInfo

namespace Tensor

variable {α : Type}

/-
  Check the lengths of an array one after the other, each of
  which multiplies the bytes counted so far.  An axis of no
  length is counted as if it had length one.
-/
def checkBytes
    (bytes : Int) :
    List Int → Except (Error α) Unit
  | [] => .ok ()
  | n :: ns =>
      if n = 0 then checkBytes bytes ns
      else if n < 0 then .error .negativeSize
      else if 0x8000000000000000 ≤ bytes * n then .error .hugeArray
      else checkBytes (bytes * n) ns

/- There has to be room for the bytes of all entries. -/
def checkRoom
    (room : Int)
    (lengths : List Int) :
    Except (Error α) Unit :=
  if room < lengths.foldl (· * ·) 8 then
    .error .outOfMemory
  else .ok ()

/- The number is one that a length can be. -/
def isLength
    (n : Int) :
    Bool :=
  IsIndex n

/-
  Check the lengths of an array of words of eight bytes that
  is to be made where there is room for so many bytes.  Every
  length has to be a word itself.
-/
def checkSizes
    (room : Int)
    (lengths : List Int) :
    Except (Error α) Unit :=
  if lengths.all isLength then do
    checkBytes 8 lengths
    checkRoom room lengths
  else .error .hugeSize

/- One length, which a caller has to give as a word. -/
def readLength :
    Value α → Except (Error α) Int
  | .whole n =>
      if isLength n then .ok n else .error .hugeSize
  | _ => .error .wrongKind

/-
  The lengths of an array along its axes: a single one, or one
  for each item of a sequence.
-/
def readLengths
    (v : Value α) :
    Except (Error α) (List Int) :=
  match v with
  | .list vs =>
      if Value.maxAxes < vs.length then
        .error (.tooManyLengths vs.length)
      else vs.mapM readLength
  | .text s =>
      if Value.maxAxes < s.length then
        .error (.tooManyLengths s.length)
      else if s.isEmpty then .ok []
      else .error .wrongKind
  | v => do
      let n ← readLength v
      return [n]

end Tensor

end NeighbourInfo
