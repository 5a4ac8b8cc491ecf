/-
  Letter case, as far as ASCII words can tell.

  Key definitions include:
    * `NeighbourInfo.Text.upper`
    * `NeighbourInfo.Text.lower`

  Words are compared with ASCII words after a change of case.
  A few characters outside ASCII have an upper or lower form
  within it, such as the long s, the dotless i, the ligatures
  and the Kelvin sign.  All other characters outside ASCII
  keep out of it in either case, so they are left alone here
  without changing the result of any such comparison.
-/

------------------------------------------------------------
-- Upper Case
------------------------------------------------------------

namespace NeighbourInfo

namespace Text

/- The upper form of one character, possibly of several. -/
def upperForm
    (c : Char) :
    List Char :=
  match c.toNat with
  | 0x131 => ['I']
  | 0x17f => ['S']
  | 0xdf => ['S', 'S']
  | 0xfb00 => ['F', 'F']
  | 0xfb01 => ['F', 'I']
  | 0xfb02 => ['F', 'L']
  | 0xfb03 => ['F', 'F', 'I']
  | 0xfb04 => ['F', 'F', 'L']
  | 0xfb05 => ['S', 'T']
  | 0xfb06 => ['S', 'T']
  | _ => [c.toUpper]

/- The text in upper case. -/
def upper
    (s : String) :
    String :=
  String.ofList (s.toList.flatMap upperForm)

end Text

end NeighbourInfo

------------------------------------------------------------
-- Lower Case
------------------------------------------------------------

namespace NeighbourInfo

namespace Text

/- The lower form of one character. -/
def lowerForm
    (c : Char) :
    Char :=
  if c.toNat = 0x212a then 'k' else c.toLower

/- The text in lower case. -/
def lower
    (s : String) :
    String :=
  String.ofList (s.toList.map lowerForm)

end Text

end NeighbourInfo
