import NeighbourInfo.Mask
import NeighbourInfo.Table.Gather

/-
  Selections, which pick entries along the first axes.

  Key definitions include:
    * `NeighbourInfo.Selection`
    * `NeighbourInfo.Selection.ofValue`
    * `NeighbourInfo.Tensor.select`

  A number selects one row, and an array of numbers one row
  for each of them.  An array of truth values selects what is
  at its true places; a single one selects all or nothing.
-/

------------------------------------------------------------
-- Selections
------------------------------------------------------------

namespace NeighbourInfo

/- What is to be picked from an array. -/
inductive Selection where
  /- The row that an index stands for. -/
  | row (index : Int)
  /- All entries, under one axis more, or none of them. -/
  | all (isTaken : Bool)
  /- The rows of an array of indices with some axes. -/
  | rows (axes : Nat) (indices : List Int)
  /- What is at the marked places of the first axes. -/
  | places (marks : Tensor Bool)
deriving DecidableEq, Repr, Inhabited

end NeighbourInfo

------------------------------------------------------------
-- Reading Selections
------------------------------------------------------------

namespace NeighbourInfo

namespace Selection

variable {α : Type}

/-
  The row that a number stands for.  The number has to be a
  word with a sign; a word without one is told from numbers
  that are no words.
-/
def ofIndex
    (n : Int) :
    Except (Error α) Selection :=
  if Tensor.isLength n then .ok (.row n)
  else if Value.isWord n then .error .tooLarge
  else .error .notIndex

/- The truth value of a value that is one. -/
def mark? :
    Value α → Option Bool
  | .truth b => some b
  | _ => none

/- An index among words, where it wraps around to a sign. -/
def wrappedIndex :
    Value α → Int
  | .truth b => Value.bit b
  | .whole n => n.bmod 0x10000000000000000
  | _ => 0

/-
  The selection of an array.  Truth values among themselves
  are marks; beside whole numbers they are indices too.
-/
def ofLeaves
    (shape : List Nat)
    (leaves : List (Value α)) :
    Except (Error α) Selection :=
  if leaves.isEmpty then .ok (.rows shape.length [])
  else
    match leaves.mapM mark? with
    | some marks => .ok (.places ⟨shape, marks⟩)
    | none =>
        if Mask.readingOfAll leaves = .words then
          .ok (.rows shape.length (leaves.map wrappedIndex))
        else .error .notIndex

/- Read a selection. -/
def ofValue
    (v : Value α) :
    Except (Error α) Selection :=
  match v with
  | .whole n => ofIndex n
  | .null => .ok (.all true)
  | .truth b => .ok (.all b)
  | .list _ =>
      match v.arrayShape? with
      | some shape => ofLeaves shape v.leaves
      | none => .error .ragged
  | .real _ | .text _ | .record _ => .error .notIndex

end Selection

end NeighbourInfo

------------------------------------------------------------
-- Selecting
------------------------------------------------------------

namespace NeighbourInfo

namespace Tensor

variable {α : Type}

/- There are not too many axes for what is selected. -/
def checkAxes
    (axes : Nat) :
    Except (Error α) Unit :=
  if axes ≤ Value.maxAxes then .ok ()
  else .error (.tooManyAxes axes)

/- The rows of an array, one of whose axes is used up. -/
def selectable
    (t : Tensor α) :
    Except (Error α) (Table α) :=
  match Table.alongFirstAxis? t with
  | some table => .ok table
  | none => .error .tooFewAxes

/-
  The marks have the lengths of an array along its axes, of
  which there may be more.  The first difference is reported.
-/
def checkMarks
    (axis : Nat) :
    List Nat → List Nat → Except (Error α) Unit
  | [], _ => .ok ()
  | _ :: _, [] => .error .tooFewAxes
  | choices :: marks, size :: shape =>
      if choices = size then checkMarks (axis + 1) marks shape
      else .error (.misaligned axis size choices)

/- What is at the marked places, in their order. -/
def atMarks
    (marks : Tensor Bool)
    (t : Tensor α) :
    List α :=
  let width := (t.shape.drop marks.axes).foldl (· * ·) 1
  let parts :=
    Table.cut width t.entries marks.entries.length
  ((marks.entries.zip parts).filter Prod.fst).flatMap Prod.snd

/- The entries that are selected, in their order. -/
def select
    (t : Tensor α) :
    Selection → Except (Error α) (List α)
  | .row index => do
      let table ← t.selectable
      table.rowAt index
  | .all isTaken => do
      checkAxes (t.axes + 1)
      return if isTaken then t.entries else []
  | .rows axes indices => do
      let table ← t.selectable
      checkAxes (t.axes - 1 + axes)
      let rows ← indices.mapM table.rowAt
      return rows.flatten
  | .places marks => do
      if t.axes < marks.axes then throw .tooFewAxes
      checkMarks 0 marks.shape t.shape
      return atMarks marks t

end Tensor

end NeighbourInfo
