import NeighbourInfo.Text.Printable

/-
  Quoted texts, as they appear inside messages.

  Key definitions include:
    * `NeighbourInfo.Text.escape`
    * `NeighbourInfo.Text.quoted`

  A text stands between apostrophes, or between double quotes
  when it holds an apostrophe and no double quote.  The
  delimiter and the backslash are escaped, and so is every
  character that has no printed form.
-/

------------------------------------------------------------
-- Hexadecimal Escapes
------------------------------------------------------------

namespace NeighbourInfo

namespace Text

/- The last `width` hexadecimal digits of a number. -/
def hex
    (width : Nat)
    (n : Nat) :
    List Char :=
  match width with
  | 0 => []
  | width + 1 => hex width (n / 16) ++ [(n % 16).digitChar]

/- The shortest numeric escape that can hold the character. -/
def numericEscape
    (c : Char) :
    List Char :=
  if c.toNat < 0x100 then '\\' :: 'x' :: hex 2 c.toNat
  else if c.toNat < 0x10000 then
    '\\' :: 'u' :: hex 4 c.toNat
  else '\\' :: 'U' :: hex 8 c.toNat

end Text

end NeighbourInfo

------------------------------------------------------------
-- Quoting
------------------------------------------------------------

namespace NeighbourInfo

namespace Text

/- One character as written between the delimiters. -/
def escape
    (delimiter : Char)
    (c : Char) :
    List Char :=
  if c = delimiter || c = '\\' then ['\\', c]
  else if c = '\n' then ['\\', 'n']
  else if c = '\r' then ['\\', 'r']
  else if c = '\t' then ['\\', 't']
  else if isPrintable c then [c]
  else numericEscape c

/- The delimiter that a text is quoted with. -/
def delimiterOf
    (cs : List Char) :
    Char :=
  if cs.contains '\'' && !cs.contains '"' then '"' else '\''

/- The text between its delimiters. -/
def quoted
    (s : String) :
    String :=
  let cs := s.toList
  let delimiter := delimiterOf cs
  String.ofList
    (delimiter :: cs.flatMap (escape delimiter) ++ [delimiter])

end Text

end NeighbourInfo
