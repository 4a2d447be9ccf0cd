/-! # Sets of code points

A property of characters is kept as the list of its ranges, in ascending order and with both
ends included. -/
set_option autoImplicit false
namespace SourceIndex.Text

def inRanges (ranges : List (Nat × Nat)) (codePoint : Nat) : Bool :=
  ranges.any fun range => range.1 ≤ codePoint && codePoint ≤ range.2

end SourceIndex.Text
