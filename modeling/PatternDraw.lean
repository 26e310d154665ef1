import PatternDraw.Alphabet.Basic
import PatternDraw.Alphabet.Choice
import PatternDraw.Alphabet.Named
import PatternDraw.Alphabet.Shorthand
import PatternDraw.CommandLine.Arguments
import PatternDraw.CommandLine.LogFilter
import PatternDraw.CommandLine.Outcome
import PatternDraw.CommandLine.Settings
import PatternDraw.Composer
import PatternDraw.Entropy.AnySource
import PatternDraw.Entropy.Basic
import PatternDraw.Entropy.ChaCha
import PatternDraw.Entropy.Cyclic
import PatternDraw.Entropy.SplitMix
import PatternDraw.Entropy.Uniform
import PatternDraw.LetterTable
import PatternDraw.Main
import PatternDraw.Pattern.Bounds
import PatternDraw.Pattern.Bracket
import PatternDraw.Pattern.Compilation
import PatternDraw.Pattern.Construct
import PatternDraw.Pattern.Fault
import PatternDraw.Pattern.Opener
import PatternDraw.Pattern.Scan
import PatternDraw.Pattern.Warning
import PatternDraw.Record
import PatternDraw.Regex.Automaton
import PatternDraw.Regex.Brackets
import PatternDraw.Regex.CharSet
import PatternDraw.Regex.Compiled
import PatternDraw.Regex.Construction
import PatternDraw.Regex.Cursor
import PatternDraw.Regex.Escape
import PatternDraw.Regex.Expression
import PatternDraw.Regex.Fault
import PatternDraw.Regex.Reader
import PatternDraw.Regex.Resolution
import PatternDraw.Regex.Search
import PatternDraw.Regex.Tree
import PatternDraw.Template
import PatternDraw.Text.Alphabetic
import PatternDraw.Text.Blank
import PatternDraw.Text.ByteRanges
import PatternDraw.Text.CodeRange
import PatternDraw.Text.Combining
import PatternDraw.Text.Decimal
import PatternDraw.Text.Escaped
import PatternDraw.Text.Latin1
import PatternDraw.Text.Scalar
import PatternDraw.Text.Unprintable
import PatternDraw.Proofs.Reading.BoundsText
import PatternDraw.Proofs.Reading.Grammar
import PatternDraw.Proofs.Reading.Lookahead
import PatternDraw.Proofs.Reading.Obstruction
import PatternDraw.Proofs.Reading.Places
import PatternDraw.Proofs.Reading.Splitting
import PatternDraw.Proofs.Entropy.Interval
import PatternDraw.Proofs.Entropy.Supply
import PatternDraw.Proofs.Compiling.Realization
import PatternDraw.Proofs.Compiling.Denotation
import PatternDraw.Proofs.Compiling.Diagnosis
import PatternDraw.Proofs.Compiling.Ending
import PatternDraw.Proofs.Compiling.Independence
import PatternDraw.Proofs.Drawing.Candidates
import PatternDraw.Proofs.Drawing.Language
import PatternDraw.Proofs.Compiling.LeastCounts
import PatternDraw.Proofs.Compiling.Chance
import PatternDraw.Proofs.Reading.Braces
import PatternDraw.Proofs.Compiling.Searching
import PatternDraw.Proofs.Reading.Displacement
import PatternDraw.Proofs.Compiling.Concatenation
import PatternDraw.Proofs.Letters.Bindings
import PatternDraw.Proofs.Letters.Ordering
import PatternDraw.Proofs.Letters.Histories
import PatternDraw.Proofs.Guarding.Operations
import PatternDraw.Proofs.Guarding.Runs
import PatternDraw.Proofs.Compiling.AtomRows
import PatternDraw.Proofs.Letters.Agreement
import PatternDraw.Proofs.Compiling.Finality
import PatternDraw.Proofs.Compiling.Interchange
import PatternDraw.Proofs.Reading.BracketText
import PatternDraw.Proofs.Compiling.Listing
import PatternDraw.Proofs.Compiling.Verdicts
import PatternDraw.Proofs.Compiling.WrittenOut
import PatternDraw.Proofs.Drawing.Spellings
import PatternDraw.Proofs.Drawing.Rows
import PatternDraw.Proofs.Drawing.Batches
import PatternDraw.Proofs.CommandLine.Generations
import PatternDraw.Proofs.CommandLine.SequentialRun
import PatternDraw.Proofs.CommandLine.RawOutput
import PatternDraw.Proofs.Compiling.RaisedLimit
import PatternDraw.Proofs.Compiling.Sizes
import PatternDraw.Proofs.Compiling.Draws
import PatternDraw.Proofs.Reading.TopLevel
import PatternDraw.Proofs.Compiling.Warnings
import PatternDraw.Proofs.Compiling.Provenance
import PatternDraw.Proofs.Drawing.CodePoints
import PatternDraw.Proofs.Drawing.Reuse
import PatternDraw.Proofs.Text.Unescaping
