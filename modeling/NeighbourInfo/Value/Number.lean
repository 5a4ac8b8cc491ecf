import NeighbourInfo.Error
import NeighbourInfo.Text.Blank
import NeighbourInfo.Text.LetterCase

/-
  Values as numbers and as truth values.

  Key definitions include:
    * `NeighbourInfo.Value.isWord`
    * `NeighbourInfo.Value.readInt`
    * `NeighbourInfo.Value.toInt`
    * `NeighbourInfo.Value.exactInt`
    * `NeighbourInfo.Value.toScalar`
    * `NeighbourInfo.Value.toEntry`
    * `NeighbourInfo.Value.toArgument`
    * `NeighbourInfo.Value.toTruth`
    * `NeighbourInfo.Value.isAbove`
-/

------------------------------------------------------------
-- Whole Numbers
------------------------------------------------------------

namespace NeighbourInfo

namespace Value

variable {α : Type} [Scalar α] [Literal α]

/- A truth value counts as one or zero. -/
def bit
    (b : Bool) :
    Int :=
  if b then 1 else 0

/- The whole number has sixty-four bits, signed or not. -/
def isWord
    (n : Int) :
    Bool :=
  -0x8000000000000000 ≤ n && n < 0x10000000000000000

/-
  A whole number from a text.  It may have only so many
  digits, and they are counted before what follows them is
  looked at; a text that is no whole number gives the error
  of the caller.
-/
def readInt
    (refusal : Error α)
    (s : String) :
    Except (Error α) Int :=
  match Decimal.wholeParts? s with
  | none => .error refusal
  | some (negative, digits, rest) =>
      if Decimal.maxDigits < digits.length then
        .error (.tooManyDigits digits.length)
      else if rest.isEmpty then
        .ok (Decimal.signed negative (Decimal.valueOf digits))
      else .error refusal

/-
  A whole number.  Scalars lose their fraction and texts are
  read; nothing, lists and records are refused.
-/
def toInt :
    Value α → Except (Error α) Int
  | .truth b => .ok (bit b)
  | .whole n => .ok n
  | .real a =>
      match Literal.truncate? a with
      | some n => .ok n
      | none =>
          .error
            (if Scalar.isNaN a then .undefinedWhole
            else .tooLarge)
  | .text s => readInt (.notWhole s) s
  | .null | .list _ | .record _ => .error .wrongKind

/-
  A whole number that is given as one, or as a truth value in
  place of one.
-/
def exactInt :
    Value α → Except (Error α) Int
  | .truth b => .ok (bit b)
  | .whole n => .ok n
  | _ => .error .wrongKind

end Value

end NeighbourInfo

------------------------------------------------------------
-- Scalars
------------------------------------------------------------

namespace NeighbourInfo

namespace Value

variable {α : Type} [Scalar α] [Literal α]

/- A whole number within the range of the scalars. -/
def scalarOfInt
    (n : Int) :
    Except (Error α) α :=
  let a : α := Scalar.ofInt n
  if Scalar.isFinite a then .ok a else .error .tooLarge

/-
  A scalar.  Texts are read; nothing, lists and records are
  refused.
-/
def toScalar :
    Value α → Except (Error α) α
  | .truth b => .ok (Scalar.ofInt (bit b))
  | .whole n => scalarOfInt n
  | .real a => .ok a
  | .text s =>
      match Literal.read? s with
      | some a => .ok a
      | none => .error (.notNumeric s)
  | .null | .list _ | .record _ => .error .wrongKind

/- A scalar of an array, where nothing is no number. -/
def toEntry :
    Value α → Except (Error α) α
  | .null => .ok Scalar.nan
  | v => v.toScalar

/-
  A scalar that a function of scalars is applied to.  A whole
  number has to be a word; texts are not read.
-/
def toArgument :
    Value α → Except (Error α) α
  | .truth b => .ok (Scalar.ofInt (bit b))
  | .whole n =>
      if isWord n then .ok (Scalar.ofInt n)
      else .error .wrongKind
  | .real a => .ok a
  | _ => .error .wrongKind

end Value

end NeighbourInfo

------------------------------------------------------------
-- Truth Values
------------------------------------------------------------

namespace NeighbourInfo

namespace Value

variable {α : Type} [Literal α]

/-
  A truth value, or the plain form of one of the words for
  it, in any letter case and with blanks around it.
-/
def toTruth
    (v : Value α) :
    Except (Error α) Bool :=
  match v with
  | .truth b => .ok b
  | v =>
      let word := Text.lower (Text.strip v.toText)
      if ["true", "1", "yes", "on"].contains word then
        .ok true
      else if ["false", "0", "no", "off"].contains word then
        .ok false
      else .error (.notBoolean v)

end Value

end NeighbourInfo

------------------------------------------------------------
-- Comparisons
------------------------------------------------------------

namespace NeighbourInfo

namespace Value

variable {α : Type} [Scalar α]

/- The value is above a whole number. -/
def isAbove
    (n : Int) :
    Value α → Except (Error α) Bool
  | .truth b => .ok (n < bit b)
  | .whole m => .ok (n < m)
  | .real a => .ok (Scalar.lt (Scalar.ofInt n) a)
  | _ => .error .wrongKind

/- The value is below a whole number. -/
def isBelow
    (n : Int) :
    Value α → Except (Error α) Bool
  | .truth b => .ok (bit b < n)
  | .whole m => .ok (m < n)
  | .real a => .ok (Scalar.lt a (Scalar.ofInt n))
  | _ => .error .wrongKind

end Value

end NeighbourInfo
