/-!
# Blank characters

The characters with the Unicode property White_Space. A text counts as blank when it has
no other character, which is what trimming both ends down to nothing means.
-/

namespace Unwinding

namespace Text

/-- The ranges of code points with the White_Space property. -/
def blankRanges : List (Nat × Nat) :=
  [(0x09, 0x0D), (0x20, 0x20), (0x85, 0x85), (0xA0, 0xA0), (0x1680, 0x1680),
   (0x2000, 0x200A), (0x2028, 0x2029), (0x202F, 0x202F), (0x205F, 0x205F), (0x3000, 0x3000)]

/-- Whether a character is blank. -/
def isBlank (c : Char) : Bool := blankRanges.any fun r => r.1 ≤ c.toNat && c.toNat ≤ r.2

/-- Whether a text has only blank characters. -/
def isBlankText (s : String) : Bool := s.all isBlank

end Text

end Unwinding
