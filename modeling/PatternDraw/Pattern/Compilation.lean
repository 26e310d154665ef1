import PatternDraw.Pattern.Scan
import PatternDraw.Template

/-!
# From a pattern to a template

The constructs of a pattern are taken in order.  An atom adds a slot.  A quantifier replaces
the last slot by copies of it; their number is chosen here, once, from the bounds of the
quantifier, and drawn from the source of entropy only if there is a choice.  The first fault
ends the compilation; warnings and draws made before it stand.
-/

namespace PatternDraw

/-- The memory in which templates are built. -/
class Memory where
  /-- The greatest number of times that a slot can be repeated within memory. -/
  capacity : Nat
  /-- Memory is addressed by words of 64 bits. -/
  capacity_lt : capacity < 0x10000000000000000
  deriving DecidableEq, Repr

/-- Memory that is assumed unless other memory is given. -/
instance Memory.usual : Memory :=
  ⟨0x10000000000, by decide⟩

instance : Inhabited Memory :=
  ⟨.usual⟩

/-- The limits on quantifiers. -/
structure Limits where
  /-- The upper bound of quantifiers that leave it open. -/
  openUpper : Nat := 10
  /-- The greatest upper bound that is allowed. -/
  repeatLimit : Nat := 65536
  /-- The memory that has to hold the repeated slots. -/
  [memory : Memory]
  deriving DecidableEq, Repr, Inhabited

namespace Limits

/-- The greatest number of times that a slot can be repeated within memory. -/
def capacity (limits : Limits) : Nat :=
  limits.memory.capacity

theorem capacity_lt (limits : Limits) : limits.capacity < WordSize.wide.range :=
  limits.memory.capacity_lt

end Limits

/-- What compiling a pattern leads to. -/
structure Compilation (σ : Type) where
  /-- The template, or the fault of the pattern. -/
  outcome : Except Fault Template
  /-- The warnings found on the way, in order. -/
  warnings : List Warning
  /-- What is left of the source. -/
  source : σ

namespace Compilation

variable {σ : Type} [EntropySource σ]

/-! ## Quantifiers -/

/-- Choose how often to repeat; a single possibility is not drawn. -/
def chooseCount (lower upper : Nat) (source : σ) : Nat × σ :=
  if lower = upper then (lower, source) else Uniform.between lower upper source

/-- Repeat the last slot as often as the bounds of a quantifier at `offset` say. -/
def repeatLast (limits : Limits) (offset : Nat) (bounds : Bounds) (template : Template)
    (source : σ) : Except Fault Template × σ :=
  let upper := bounds.upper.getD limits.openUpper
  if upper < bounds.lower then
    (.error (.invertedRange offset bounds.lower upper), source)
  else if limits.repeatLimit < upper then
    (.error (.repeatTooLarge offset upper limits.repeatLimit), source)
  else
    match template.last? with
    | none => (.error (.danglingQuantifier offset), source)
    | some slot =>
        let (count, source) := chooseCount bounds.lower upper source
        if limits.capacity < count then
          (.error (.repeatTooLarge offset count limits.repeatLimit), source)
        else (.ok (template.replaceLast count slot), source)

/-! ## Constructs -/

/-- Take one construct. -/
def applyPiece (limits : Limits) (piece : Piece) (template : Template) (source : σ) :
    Except Fault Template × σ :=
  match piece.construct with
  | .atom atom => (.ok (template.push ⟨atom.alphabet, piece.offset⟩), source)
  | .quantifier quantifier =>
      repeatLast limits piece.offset quantifier.bounds template source

/-- The compilation with more warnings before its own. -/
def prependWarnings (warnings : List Warning) (compilation : Compilation σ) : Compilation σ :=
  { compilation with warnings := warnings ++ compilation.warnings }

/-- The end of the constructs: the template is complete unless reading stopped there. -/
def finish (halt : Option Halt) (template : Template) (source : σ) : Compilation σ :=
  match halt with
  | none => ⟨.ok template, [], source⟩
  | some halt => ⟨.error halt.fault, halt.warnings, source⟩

/-- Take the constructs in order. -/
def ofPieces (limits : Limits) (halt : Option Halt) :
    List Piece → Template → σ → Compilation σ
  | [], template, source => finish halt template source
  | piece :: rest, template, source =>
      match applyPiece limits piece template source with
      | (.ok template, source) =>
          prependWarnings piece.warnings (ofPieces limits halt rest template source)
      | (.error fault, source) => ⟨.error fault, piece.warnings, source⟩

/-- Compile the constructs of a reading. -/
def ofScan (limits : Limits) (scan : Scan) (source : σ) : Compilation σ :=
  ofPieces limits scan.halt scan.pieces .empty source

/-- Compile a pattern. -/
def ofPattern (limits : Limits) (pattern : String) (source : σ) : Compilation σ :=
  ofScan limits (Scan.ofPattern pattern.toList) source

end Compilation

end PatternDraw
