/-
  Blank text.

  A text is blank when it holds nothing but characters with
  the Unicode property White_Space.  The property has 25
  members, listed here as ranges of code points.

  Main declarations:
    * `Text.isBlank`
    * `Text.isBlankText`
-/

------------------------------------------------------------
-- White Space
------------------------------------------------------------

namespace Interchain

namespace Text

/- A character's code point lies in one of the ranges. -/
def inRanges
    (ranges : List (Nat × Nat))
    (c : Char) :
    Bool :=
  ranges.any fun (low, high) =>
    low ≤ c.toNat && c.toNat ≤ high

/- The code points with the property White_Space. -/
def blankRanges : List (Nat × Nat) :=
  [ (0x9, 0xD), (0x20, 0x20), (0x85, 0x85),
    (0xA0, 0xA0), (0x1680, 0x1680), (0x2000, 0x200A),
    (0x2028, 0x2029), (0x202F, 0x202F), (0x205F, 0x205F),
    (0x3000, 0x3000) ]

/- A character with the property White_Space. -/
def isBlank (c : Char) : Bool :=
  inRanges blankRanges c

/- A text of blank characters only; the empty text is one. -/
def isBlankText (s : String) : Bool :=
  s.toList.all isBlank

/- What is left of a text after the blanks it starts with. -/
def dropBlanks (s : List Char) : List Char :=
  s.dropWhile isBlank

end Text

end Interchain
