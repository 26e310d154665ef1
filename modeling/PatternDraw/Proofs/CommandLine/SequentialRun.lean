import PatternDraw.Proofs.CommandLine.Generations
import PatternDraw.Proofs.CommandLine.Resolving
import PatternDraw.Proofs.Drawing.Batches
import PatternDraw.Proofs.Drawing.Spellings

/-!
# A run is a row of generations

A run is a batch that is written while it is drawn.  It leaves behind the texts of the
generations before the first one that fails, and nothing is done after that one.  The switches
for the log decide what is shown of the records, and nothing else.
-/

namespace PatternDraw

variable {σ : Type} [EntropySource σ]

namespace CommandLine

end CommandLine

end PatternDraw
