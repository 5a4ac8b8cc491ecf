/-
  Blank characters and the removal of blanks around a text.

  Key definitions include:
    * `NeighbourInfo.Text.isBlank`
    * `NeighbourInfo.Text.strip`

  Blank are the characters of bidirectional type B, S or WS
  and the space separators: the ASCII spaces with the four
  information separators, the next-line and no-break spaces,
  and the spaces of general punctuation and of CJK text.
-/

------------------------------------------------------------
-- Blank Characters
------------------------------------------------------------

namespace NeighbourInfo

namespace Text

/- First and last code points of the blank ranges. -/
def blanks :
    List (Nat × Nat) := [
  (0x9, 0xd), (0x1c, 0x20), (0x85, 0x85), (0xa0, 0xa0),
  (0x1680, 0x1680), (0x2000, 0x200a), (0x2028, 0x2029),
  (0x202f, 0x202f), (0x205f, 0x205f), (0x3000, 0x3000)]

/- The character is blank. -/
def isBlank
    (c : Char) :
    Bool :=
  blanks.any fun range =>
    range.1 ≤ c.toNat && c.toNat ≤ range.2

end Text

end NeighbourInfo

------------------------------------------------------------
-- Stripping
------------------------------------------------------------

namespace NeighbourInfo

namespace Text

/- Drop the characters in `p` from both ends. -/
def trim
    (p : Char → Bool)
    (cs : List Char) :
    List Char :=
  ((cs.dropWhile p).reverse.dropWhile p).reverse

/- A text without such characters is left as it is. -/
theorem trim_eq_self
    {p : Char → Bool}
    {cs : List Char}
    (hNone : ∀ c ∈ cs, p c = false) :
    trim p cs = cs := by
  have hDrop :
      ∀ xs : List Char, (∀ c ∈ xs, p c = false) →
        xs.dropWhile p = xs := by
    intro xs hxs
    cases xs with
    | nil => rfl
    | cons x xs =>
        simp [hxs x (by simp)]
  rw [trim, hDrop cs hNone,
    hDrop cs.reverse (by simpa using hNone),
    List.reverse_reverse]

/- The text without the blanks around it. -/
def strip
    (s : String) :
    String :=
  String.ofList (trim isBlank s.toList)

end Text

end NeighbourInfo
