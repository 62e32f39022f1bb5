import SqlEngine.Text.Range

/-!
# Blank characters

The white space of Unicode, and a text without the white space at its ends.
-/

namespace SqlEngine
namespace Text

/-- The code points with the property White_Space. -/
def blankRanges : List (Nat × Nat) :=
  [(0x0009, 0x000D), (0x0020, 0x0020), (0x0085, 0x0085), (0x00A0, 0x00A0), (0x1680, 0x1680),
   (0x2000, 0x200A), (0x2028, 0x2029), (0x202F, 0x202F), (0x205F, 0x205F), (0x3000, 0x3000)]

/-- Whether a character is white space. -/
def isBlank (c : Char) : Bool :=
  inRanges blankRanges c.toNat

/-- The characters without the blanks in front. -/
def trimStart (chars : List Char) : List Char :=
  chars.dropWhile isBlank

/-- The characters without the blanks at either end. -/
def trim (chars : List Char) : List Char :=
  (trimStart (trimStart chars).reverse).reverse

end Text
end SqlEngine
