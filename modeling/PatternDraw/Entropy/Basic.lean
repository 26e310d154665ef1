/-!
# Sources of entropy

A source of entropy is a value from which words of 32 and of 64 bits are drawn.  Drawing
returns the word together with what is left of the source, so every use of chance is an
ordinary function.  A metered source counts its draws.
-/

namespace PatternDraw

/-- States from which random words can be drawn. -/
class EntropySource (σ : Type) where
  /-- Draw a word of 32 bits. -/
  draw32 : σ → UInt32 × σ
  /-- Draw a word of 64 bits. -/
  draw64 : σ → UInt64 × σ

/-- A source with the numbers of words drawn from it. -/
structure Metered (σ : Type) where
  /-- The source that is metered. -/
  source : σ
  /-- How many words of 32 bits have been drawn. -/
  narrowDraws : Nat := 0
  /-- How many words of 64 bits have been drawn. -/
  wideDraws : Nat := 0
  deriving DecidableEq, Repr, Inhabited

namespace Metered

variable {σ : Type} [EntropySource σ]

instance : EntropySource (Metered σ) where
  draw32 meter :=
    let (word, source) := EntropySource.draw32 meter.source
    (word, { meter with source := source, narrowDraws := meter.narrowDraws + 1 })
  draw64 meter :=
    let (word, source) := EntropySource.draw64 meter.source
    (word, { meter with source := source, wideDraws := meter.wideDraws + 1 })

end Metered

end PatternDraw
