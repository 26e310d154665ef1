import PatternDraw.Entropy.Basic

/-!
# A given list of words, over and over

The words of a non-empty list are drawn in turn, starting again when they are used up.  A
draw of 32 bits takes a whole word too and keeps its lower half.
-/

namespace PatternDraw

/-- A non-empty list of words and the part of it that is still to come in this round. -/
structure CyclicWords where
  /-- The first word of a round. -/
  first : UInt64
  /-- The other words of a round. -/
  others : List UInt64
  /-- What is left of the present round. -/
  pending : List UInt64 := []
  deriving DecidableEq, Repr, Inhabited

namespace CyclicWords

/-- The word that comes next, and the list after it. -/
def next (words : CyclicWords) : UInt64 × CyclicWords :=
  match words.pending with
  | word :: rest => (word, { words with pending := rest })
  | [] => (words.first, { words with pending := words.others })

instance : EntropySource CyclicWords where
  draw32 words :=
    let (word, words) := words.next
    (word.toUInt32, words)
  draw64 := next

end CyclicWords

end PatternDraw
