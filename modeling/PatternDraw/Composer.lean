import PatternDraw.LetterTable
import PatternDraw.Pattern.Compilation
import PatternDraw.Record

/-!
# Drawing texts from patterns

A composer has limits for the quantifiers of patterns and a table for the letters of letter
patterns.  Each use of it is a run: it takes a source of entropy and gives a text or a fault,
the records of what was done, and what is left of the source.  Records and draws that come
before a fault are kept.
-/

namespace PatternDraw

/-! ## Runs -/

/-- What came of a use of a composer. -/
structure Run (σ α : Type) where
  /-- The result, or the fault that prevented it. -/
  result : Except Fault α
  /-- What was done, in order. -/
  records : List Record
  /-- What is left of the source. -/
  source : σ

namespace Run

variable {σ α β : Type}

/-- Change the result of a run. -/
def map (change : α → β) (run : Run σ α) : Run σ β :=
  { result := run.result.map change, records := run.records, source := run.source }

/-- A run with more records before its own. -/
def prependRecords (records : List Record) (run : Run σ α) : Run σ α :=
  { run with records := records ++ run.records }

/-- Go on from a result with what is left of the source; a fault ends the run. -/
def andThen (run : Run σ α) (next : α → σ → Run σ β) : Run σ β :=
  match run.result with
  | .ok result => (next result run.source).prependRecords run.records
  | .error fault => ⟨.error fault, run.records, run.source⟩

end Run

/-! ## Composers -/

/-- Limits for patterns and a table for letter patterns. -/
structure Composer where
  /-- The limits on quantifiers. -/
  limits : Limits := {}
  /-- The alphabets of letters. -/
  letters : LetterTable := .standard
  deriving DecidableEq, Repr, Inhabited

/-- One pattern, or several in order. -/
inductive Request where
  | single (pattern : String)
  | batch (patterns : List String)
  deriving DecidableEq, Repr, Inhabited

/-- One text, or several in order. -/
inductive Answer where
  | single (text : String)
  | batch (texts : List String)
  deriving DecidableEq, Repr, Inhabited

namespace Answer

/-- The texts of an answer. -/
def toList : Answer → List String
  | single text => [text]
  | batch texts => texts

end Answer

namespace Composer

/-- The usual composer, with the given upper bound for quantifiers that leave it open. -/
def withOpenUpper (openUpper : Nat) : Composer :=
  { limits := { openUpper := openUpper } }

/-- The usual composer with the given limits. -/
def withLimits (limits : Limits) : Composer :=
  { limits := limits }

/-- The same limits with another table of letters. -/
def withLetters (composer : Composer) (letters : LetterTable) : Composer :=
  { composer with letters := letters }

variable {σ : Type} [EntropySource σ]

/-! ### Patterns -/

/-- Compile a pattern within the limits of the composer. -/
def templateOf (composer : Composer) (pattern : String) (source : σ) : Run σ Template :=
  let compilation := Compilation.ofPattern composer.limits pattern source
  let found := compilation.warnings.map Record.warning
  match compilation.outcome with
  | .ok template =>
      ⟨.ok template,
        found ++ [.compiled pattern template.size compilation.warnings.length],
        compilation.source⟩
  | .error fault => ⟨.error fault, found, compilation.source⟩

/-- Draw a text from a pattern.  The pattern is compiled anew each time, so the numbers of
repetitions are chosen anew as well. -/
def drawPattern (composer : Composer) (pattern : String) (source : σ) : Run σ String :=
  (composer.templateOf pattern source).andThen fun template source =>
    let (text, source) := template.draw source
    ⟨.ok text, [], source⟩

/-- Draw a text from each pattern in order, up to the first fault. -/
def drawAll (composer : Composer) : List String → σ → Run σ (List String)
  | [], source => ⟨.ok [], [], source⟩
  | pattern :: rest, source =>
      (composer.drawPattern pattern source).andThen fun text source =>
        (drawAll composer rest source).map (text :: ·)

/-- Answer a request.  A batch is answered as a whole or not at all. -/
def answer (composer : Composer) (request : Request) (source : σ) : Run σ Answer :=
  match request with
  | .single pattern => (composer.drawPattern pattern source).map .single
  | .batch patterns =>
      ((composer.drawAll patterns source).map .batch).prependRecords [.batch patterns.length]

/-! ### Letter patterns -/

/-- Draw one character for each letter, after the characters drawn so far. -/
def drawLettersFrom (composer : Composer) (drawn : String) : List Char → σ → Run σ String
  | [], source => ⟨.ok drawn, [], source⟩
  | letter :: rest, source =>
      match composer.letters.get? letter with
      | none => ⟨.error (.unknownLetter letter), [], source⟩
      | some alphabet =>
          let (drawn, source) := alphabet.extend drawn source
          drawLettersFrom composer drawn rest source

/-- Draw a text from a letter pattern. -/
def drawLetters (composer : Composer) (letters : String) (source : σ) : Run σ String :=
  composer.drawLettersFrom "" letters.toList source

end Composer

end PatternDraw
