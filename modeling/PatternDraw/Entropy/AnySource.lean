import PatternDraw.Entropy.ChaCha
import PatternDraw.Entropy.Cyclic
import PatternDraw.Entropy.SplitMix

/-!
# A source chosen at run time

The sum of the sources of this library, for callers that learn only at run time which of them
to draw from.
-/

namespace PatternDraw

/-- A source of one of the kinds of this library. -/
inductive AnySource where
  | cyclic (words : CyclicWords)
  | splitMix (state : SplitMix)
  | chaCha (state : ChaCha)
  deriving DecidableEq, Repr, Inhabited

namespace AnySource

instance : EntropySource AnySource where
  draw32
    | cyclic words =>
        let (word, words) := EntropySource.draw32 words
        (word, cyclic words)
    | splitMix state =>
        let (word, state) := EntropySource.draw32 state
        (word, splitMix state)
    | chaCha state =>
        let (word, state) := EntropySource.draw32 state
        (word, chaCha state)
  draw64
    | cyclic words =>
        let (word, words) := EntropySource.draw64 words
        (word, cyclic words)
    | splitMix state =>
        let (word, state) := EntropySource.draw64 state
        (word, splitMix state)
    | chaCha state =>
        let (word, state) := EntropySource.draw64 state
        (word, chaCha state)

end AnySource

end PatternDraw
