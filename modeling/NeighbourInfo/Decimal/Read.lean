import NeighbourInfo.Text.Blank
import NeighbourInfo.Text.Digit
import NeighbourInfo.Decimal.Basic

/-
  Reading numbers from texts.

  Key definitions include:
    * `NeighbourInfo.Decimal.wholeParts?`
    * `NeighbourInfo.Decimal.Numeral`
    * `NeighbourInfo.Decimal.readNumeral?`

  Numbers may have blanks around them, a sign, digits of any
  script, and single underscores between digits.  A number
  that need not be whole may have a point, an exponent, or be
  one of the words for an infinity or for no number.
-/

------------------------------------------------------------
-- Plain Characters
------------------------------------------------------------

namespace NeighbourInfo

namespace Decimal

/-
  Replace digits of other scripts by ASCII digits and blanks
  outside ASCII by spaces.  The information separators stay
  as they are, so they are no blanks around a number.
-/
def plain
    (c : Char) :
    Char :=
  if c.toNat < 0x80 then c
  else if Text.isBlank c then ' '
  else
    match Text.digit? c with
    | some d => d.digitChar
    | none => c

/- The blanks allowed around a number. -/
def isSpace
    (c : Char) :
    Bool :=
  c = ' ' || (0x9 ≤ c.toNat && c.toNat ≤ 0xd)

/- The characters of a number, without blanks around it. -/
def body
    (s : String) :
    List Char :=
  Text.trim isSpace (s.toList.map plain)

/- The value of a list of ASCII digits. -/
def valueOf
    (cs : List Char) :
    Nat :=
  cs.foldl (fun n c => 10 * n + (c.toNat - '0'.toNat)) 0

/-
  Remove the underscores, each of which has to stand between
  two digits.  `afterDigit` tells what stands before.
-/
def joinDigits?
    (afterDigit : Bool) :
    List Char → Option (List Char)
  | [] => some []
  | '_' :: c :: cs =>
      if afterDigit && c.isDigit then
        (joinDigits? true cs).map (c :: ·)
      else none
  | c :: cs =>
      if c = '_' then none
      else (joinDigits? c.isDigit cs).map (c :: ·)

/- Split off a sign; the flag is set for a minus. -/
def readSign :
    List Char → Bool × List Char
  | '-' :: cs => (true, cs)
  | '+' :: cs => (false, cs)
  | cs => (false, cs)

end Decimal

end NeighbourInfo

------------------------------------------------------------
-- Whole Numbers
------------------------------------------------------------

namespace NeighbourInfo

namespace Decimal

/- Attach a sign to a natural number. -/
def signed
    (negative : Bool)
    (n : Nat) :
    Int :=
  if negative then -n else n

/- The characters are digits, and there is at least one. -/
def areDigits
    (cs : List Char) :
    Bool :=
  !cs.isEmpty && cs.all Char.isDigit

/- Read digits, of which there is at least one. -/
def readDigits?
    (cs : List Char) :
    Option Nat :=
  if areDigits cs then some (valueOf cs) else none

/- The character may stand in a whole number. -/
def isWholePart
    (c : Char) :
    Bool :=
  c.isDigit || c = '_'

/-
  The sign and the digits that a text begins with, and what
  follows them.  Nothing follows a whole number.
-/
def wholeParts?
    (s : String) :
    Option (Bool × List Char × List Char) := do
  let (negative, rest) := readSign (body s)
  let digits ←
    joinDigits? false (rest.takeWhile isWholePart)
  if digits.isEmpty then none
  else some (negative, digits, rest.dropWhile isWholePart)

/-
  The most digits of a whole number that a caller may give as
  a text, zeros in front included.
-/
def maxDigits :
    Nat :=
  4300

end Decimal

end NeighbourInfo

------------------------------------------------------------
-- Numerals
------------------------------------------------------------

namespace NeighbourInfo

namespace Decimal

/- What a text can say about a number. -/
inductive Numeral where
  | finite (value : Decimal)
  | infinite (negative : Bool)
  | undefined
deriving DecidableEq, Repr, Inhabited

/- Read an exponent, or nothing at all. -/
def readExponent? :
    List Char → Option Int
  | [] => some 0
  | c :: cs =>
      if c = 'e' || c = 'E' then
        let (negative, rest) := readSign cs
        (readDigits? rest).map (signed negative)
      else none

/-
  Read digits with an optional point among or beside them,
  and an optional exponent.
-/
def readFinite?
    (negative : Bool)
    (cs : List Char) :
    Option Decimal := do
  let lead := cs.takeWhile Char.isDigit
  let rest := cs.dropWhile Char.isDigit
  let (places, rest) :=
    match rest with
    | '.' :: rest =>
        (rest.takeWhile Char.isDigit,
          rest.dropWhile Char.isDigit)
    | rest => ([], rest)
  if lead.isEmpty && places.isEmpty then none
  else
    let exponent ← readExponent? rest
    return ⟨negative, valueOf (lead ++ places),
      exponent - places.length⟩

/- Read a number, or one of the words instead of one. -/
def readNumeral?
    (s : String) :
    Option Numeral := do
  let joined ← joinDigits? false (body s)
  let (negative, rest) := readSign joined
  let word := String.ofList (rest.map Char.toLower)
  if word = "inf" || word = "infinity" then
    return .infinite negative
  else if word = "nan" then
    return .undefined
  else
    (readFinite? negative rest).map .finite

end Decimal

end NeighbourInfo

------------------------------------------------------------
-- Interface Lemmas
------------------------------------------------------------

namespace NeighbourInfo

namespace Decimal

/- Digits alone hold no underscore to remove. -/
theorem joinDigits?_eq_some
    {cs : List Char}
    (hDigits : ∀ c ∈ cs, c.isDigit = true)
    (afterDigit : Bool) :
    joinDigits? afterDigit cs = some cs := by
  induction cs generalizing afterDigit with
  | nil => rfl
  | cons c cs ih =>
      have hDigit := hDigits c (by simp)
      have hOther : c ≠ '_' := by
        rintro rfl
        exact absurd hDigit (by decide)
      have hRest :=
        ih (fun d hd => hDigits d (by simp [hd])) c.isDigit
      unfold joinDigits?
      split
      · contradiction
      · simp_all
      · simp_all

end Decimal

end NeighbourInfo
