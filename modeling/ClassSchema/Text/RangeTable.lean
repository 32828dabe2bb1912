/-!
# Tables of code points

A class of characters is given by the closed ranges of its code points, in ascending order. The
look-up stops at the first range that starts above the code point, so ASCII is found at once.
-/

namespace ClassSchema.Text

/-- Whether `n` lies in one of the closed ranges of an ascending `table`. -/
def inRanges (n : Nat) : List (Nat × Nat) → Bool
  | [] => false
  | (first, last) :: rest => if n < first then false else n ≤ last || inRanges n rest

end ClassSchema.Text
