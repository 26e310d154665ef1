import PatternDraw.Alphabet.Basic
import PatternDraw.Entropy.Uniform

/-!
# Choosing from an alphabet

A character is chosen from an alphabet by drawing an index.  One draw is made for every
choice, also where there is only one candidate.
-/

namespace PatternDraw.Alphabet

variable {σ : Type} [EntropySource σ]

/-- Choose a candidate.  Only an alphabet without candidates has none to offer. -/
def choose (alphabet : Alphabet) (source : σ) : Option Char × σ :=
  let (index, source) := Uniform.index alphabet.size source
  (alphabet.get? index, source)

/-- Choose a candidate and add it to the text drawn so far. -/
def extend (alphabet : Alphabet) (text : String) (source : σ) : String × σ :=
  match alphabet.choose source with
  | (some ch, source) => (text.push ch, source)
  | (none, source) => (text, source)

end PatternDraw.Alphabet
