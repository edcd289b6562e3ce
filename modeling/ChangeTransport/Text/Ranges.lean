/-!
# Ranges of code points

Properties of characters are kept as lists of ranges, both ends included, in ascending order.
-/

namespace ChangeTransport.Text

/-- Whether an ascending list of ranges holds a number. -/
def inRanges (point : Nat) : List (Nat × Nat) → Bool
  | [] => false
  | (first, last) :: ranges => first ≤ point && (point ≤ last || inRanges point ranges)

end ChangeTransport.Text
