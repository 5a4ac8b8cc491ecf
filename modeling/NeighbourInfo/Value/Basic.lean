import NeighbourInfo.Scalar.Literal
import NeighbourInfo.Text.Quoted

/-
  Values handed in by a caller.

  Key definitions include:
    * `NeighbourInfo.Value`
    * `NeighbourInfo.Value.quoted`
    * `NeighbourInfo.Value.text`
    * `NeighbourInfo.Value.holds`

  Property values, data, masks and orderings all arrive as
  values of no known kind; each operation decides what it can
  take.  Whole numbers are of any size.  A record stands for
  no number and no array, but it can be shown, asked whether
  it is empty, and gone through name by name.
-/

------------------------------------------------------------
-- Values
------------------------------------------------------------

namespace NeighbourInfo

/- A value of any kind; `null` stands for nothing given. -/
inductive Value (α : Type) where
  | null
  | truth (b : Bool)
  | whole (n : Int)
  | real (a : α)
  | text (s : String)
  | list (vs : List (Value α))
  | record (fields : List (String × Value α))
deriving Inhabited

end NeighbourInfo

------------------------------------------------------------
-- Written Forms
------------------------------------------------------------

namespace NeighbourInfo

namespace Value

variable {α : Type} [Literal α]

/- The word for a truth value. -/
def truthText
    (b : Bool) :
    String :=
  if b then "True" else "False"

mutual

/- The form that tells a text from other values. -/
def quoted :
    Value α → String
  | .null => "None"
  | .truth b => truthText b
  | .whole n => toString n
  | .real a => Literal.freeText a
  | .text s => Text.quoted s
  | .list vs => "[" ++ quotedItems vs ++ "]"
  | .record fields =>
      "\x7b" ++ quotedFields fields ++ "\x7d"

/- The items of a list, with commas between them. -/
def quotedItems :
    List (Value α) → String
  | [] => ""
  | [v] => quoted v
  | v :: vs => quoted v ++ ", " ++ quotedItems vs

/- The fields of a record, each name before its value. -/
def quotedFields :
    List (String × Value α) → String
  | [] => ""
  | [(name, v)] => Text.quoted name ++ ": " ++ quoted v
  | (name, v) :: fields =>
      Text.quoted name ++ ": " ++ quoted v ++ ", " ++
        quotedFields fields

end

/- The plain form, in which a text stands for itself. -/
def toText :
    Value α → String
  | .text s => s
  | v => quoted v

end Value

end NeighbourInfo

------------------------------------------------------------
-- Truth
------------------------------------------------------------

namespace NeighbourInfo

namespace Value

variable {α : Type} [Scalar α]

/- Nothing, zero and all that is empty do not hold. -/
def holds :
    Value α → Bool
  | .null => false
  | .truth b => b
  | .whole n => n != 0
  | .real a => !Scalar.eq a 0
  | .text s => !s.isEmpty
  | .list vs => !vs.isEmpty
  | .record fields => !fields.isEmpty

/- The value equals a whole number. -/
def equalsInt
    (n : Int) :
    Value α → Bool
  | .truth b => (if b then 1 else 0) == n
  | .whole m => m == n
  | .real a => Scalar.eq a (Scalar.ofInt n)
  | _ => false

/- Whole numbers equal themselves only. -/
@[simp]
theorem equalsInt_whole
    (n : Int)
    (m : Int) :
    (whole m : Value α).equalsInt n = (m == n) := rfl

end Value

end NeighbourInfo

------------------------------------------------------------
-- Items
------------------------------------------------------------

namespace NeighbourInfo

namespace Value

variable {α : Type}

/-
  The items of a value that has some.  Those of a text are
  its characters, and those of a record its names.
-/
def items? :
    Value α → Option (List (Value α))
  | .text s =>
      some (s.toList.map fun c => .text (String.singleton c))
  | .list vs => some vs
  | .record fields =>
      some (fields.map fun field => .text field.1)
  | _ => none

end Value

end NeighbourInfo
