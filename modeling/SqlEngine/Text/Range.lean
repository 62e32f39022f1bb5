/-!
# Ranges of characters

A property of characters is given by the closed ranges of code points that have it, in ascending
order and apart from each other.
-/

namespace SqlEngine
namespace Text

/-- Whether a code point lies in one of the closed ranges. -/
def inRanges (ranges : List (Nat × Nat)) (point : Nat) : Bool :=
  ranges.any fun range => range.1 ≤ point && point ≤ range.2

end Text
end SqlEngine
