import PatternDraw.Entropy.Basic

/-!
# Uniform choice from an interval

A random word `w` of `b` bits is scaled to a range of `n` values by taking the upper part of
the product `w * n`, which has `2 * b` bits.  Where the lower part lies so close to its end
that a longer fraction could still carry into the upper part, the fraction is extended by one
more word, and no further.  A choice therefore costs one or two words, never more.
-/

namespace PatternDraw

/-- The size of the words from which a value is chosen. -/
inductive WordSize where
  | narrow
  | wide
  deriving DecidableEq, Repr, Inhabited

namespace WordSize

/-- The number of different words of a size. -/
def range : WordSize → Nat
  | narrow => 0x100000000
  | wide => 0x10000000000000000

/-- The smaller size when the end of an interval fits it. -/
def ofUpper (upper : Nat) : WordSize :=
  if upper < narrow.range then narrow else wide

theorem range_pos (size : WordSize) : 0 < size.range := by
  cases size <;> simp [range]

end WordSize

namespace Uniform

variable {σ : Type} [EntropySource σ]

/-- Draw one word of the given size as a number. -/
def drawWord (size : WordSize) (source : σ) : Nat × σ :=
  match size with
  | .narrow =>
      let (word, source) := EntropySource.draw32 source
      (word.toNat, source)
  | .wide =>
      let (word, source) := EntropySource.draw64 source
      (word.toNat, source)

/-- The upper part of a product of a word with a number of values. -/
def upperPart (range word values : Nat) : Nat :=
  word * values / range

/-- The lower part of a product of a word with a number of values. -/
def lowerPart (range word values : Nat) : Nat :=
  word * values % range

/-- Whether a second word could still carry into the upper part of the first product. -/
def mayCarry (range word values : Nat) : Bool :=
  decide (range - values < lowerPart range word values)

/-- The carry that a second word brings. -/
def carry (range word second values : Nat) : Nat :=
  if range ≤ lowerPart range word values + upperPart range second values then 1 else 0

/-- Choose a number from `lower` to `upper`, both included, with words of the given size. -/
def fromWords (size : WordSize) (lower upper : Nat) (source : σ) : Nat × σ :=
  let values := (upper - lower + 1) % size.range
  let (word, source) := drawWord size source
  if values = 0 then
    (lower + word, source)
  else if mayCarry size.range word values then
    let (second, source) := drawWord size source
    (lower + (upperPart size.range word values + carry size.range word second values), source)
  else
    (lower + upperPart size.range word values, source)

/-- Choose a number from `lower` to `upper`, both included. -/
def between (lower upper : Nat) (source : σ) : Nat × σ :=
  fromWords (.ofUpper upper) lower upper source

/-- Choose an index into a collection of the given size.  The indices are an interval that leaves
its end out, and this end, the size itself, has to fit the words. -/
def index (size : Nat) (source : σ) : Nat × σ :=
  fromWords (.ofUpper size) 0 (size - 1) source

end Uniform

end PatternDraw
