/-!
# Ranges of code points

A property of characters is given by an ascending list of disjoint ranges.  Looking a code
point up walks the list and stops at the first range that starts above it.
-/

namespace PatternDraw.Text

/-- The first and the last code point of a range, both included. -/
abbrev CodeRange := Nat × Nat

namespace CodeRange

/-- Whether a code point lies in one of the ascending ranges. -/
def covers (code : Nat) : List CodeRange → Bool
  | [] => false
  | (first, last) :: rest =>
      if code < first then false else decide (code ≤ last) || covers code rest

end CodeRange

end PatternDraw.Text
