import PatternDraw.Entropy.Basic

/-!
# Split-mix words

A counter advances by the odd constant nearest to the golden ratio of 64 bits, and each word
is the counter with its bits mixed.  A draw of 32 bits keeps the lower half of a word.
-/

namespace PatternDraw

/-- The counter from which the next word is made. -/
structure SplitMix where
  /-- The counter before the next step. -/
  counter : UInt64
  deriving DecidableEq, Repr, Inhabited

namespace SplitMix

/-- The step of the counter. -/
def step : UInt64 :=
  0x9e3779b97f4a7c15

/-- Mix the bits of a counter. -/
def mix (counter : UInt64) : UInt64 :=
  let once := (counter ^^^ (counter >>> 30)) * 0xbf58476d1ce4e5b9
  let twice := (once ^^^ (once >>> 27)) * 0x94d049bb133111eb
  twice ^^^ (twice >>> 31)

/-- The word that comes next, and the state after it. -/
def next (state : SplitMix) : UInt64 × SplitMix :=
  let counter := state.counter + step
  (mix counter, ⟨counter⟩)

instance : EntropySource SplitMix where
  draw32 state :=
    let (word, state) := state.next
    (word.toUInt32, state)
  draw64 := next

end SplitMix

end PatternDraw
