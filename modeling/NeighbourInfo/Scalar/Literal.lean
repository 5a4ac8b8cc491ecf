import NeighbourInfo.Decimal.Read
import NeighbourInfo.Decimal.Written
import NeighbourInfo.Scalar.Double

/-
  Scalars as texts and as whole numbers.

  Key definitions include:
    * `NeighbourInfo.Literal`
    * `NeighbourInfo.Literal.read?`

  Estimates need no texts, so these operations stand apart
  from those of `Scalar`.
-/

------------------------------------------------------------
-- Reading And Writing
------------------------------------------------------------

namespace NeighbourInfo

/-
  Scalars that are read and written.  `truncate?` drops the
  fraction of a finite value; `freeText` writes a value so
  that it reads back, and `fixedText` to some places.
-/
class Literal (α : Type) where
  ofNumeral : Decimal.Numeral → α
  truncate? : α → Option Int
  freeText : α → String
  fixedText : Nat → α → String

namespace Literal

variable {α : Type} [Literal α]

/- Read a scalar from a text. -/
def read?
    (s : String) :
    Option α :=
  (Decimal.readNumeral? s).map ofNumeral

end Literal

end NeighbourInfo

------------------------------------------------------------
-- Doubles
------------------------------------------------------------

namespace NeighbourInfo

namespace Double

/- The double that a numeral stands for. -/
def ofNumeral :
    Decimal.Numeral → Float
  | .finite d => ofDecimal d
  | .infinite negative =>
      Float.ofBits (Binary.infinityBits negative)
  | .undefined => nan

/- The whole part of a finite double. -/
def truncate?
    (x : Float) :
    Option Int :=
  match Binary.ofFloat x with
  | .finite negative significand exponent =>
      let value := Binary.ratio significand exponent
      some (Decimal.signed negative (value.1 / value.2))
  | _ => none

end Double

instance : Literal Float where
  ofNumeral := Double.ofNumeral
  truncate? := Double.truncate?
  freeText x := (Binary.ofFloat x).freeText
  fixedText places x := (Binary.ofFloat x).fixedText places

end NeighbourInfo
