import PatternDraw.Pattern.Construct
import PatternDraw.Pattern.Fault

/-!
# Reading a pattern

A pattern is read once from left to right, one character at a time, and never again.  The
reader is either between two constructs or within one; what it has seen of the present
construct is its mode.  Reading stops at the first place where the pattern cannot go on, with
the constructs before it.

An opening brace starts a quantifier only if a closing brace is still to come.  To decide this
without looking ahead, the offset of the last closing brace is found before reading starts.
-/

namespace PatternDraw

/-! ## Results -/

/-- The end of a reading that could not go on: the warnings about the unfinished construct and
the fault. -/
structure Halt where
  /-- The warnings about the construct in which reading stopped. -/
  warnings : List Warning
  /-- Why reading stopped. -/
  fault : Fault
  deriving DecidableEq, Repr, Inhabited

/-- The constructs that were read, and what stopped the reading if something did. -/
structure Scan where
  /-- The constructs in order. -/
  pieces : List Piece
  /-- What stopped the reading. -/
  halt : Option Halt
  deriving DecidableEq, Repr, Inhabited

namespace Scan

/-! ## The reader -/

/-- Decides from its offset and the text behind it whether an opening brace starts a
quantifier. -/
abbrev BraceRule := Nat → List Char → Bool

/-- What has been seen of the present construct. -/
inductive Mode where
  /-- Nothing: a construct is about to start. -/
  | ready
  /-- A backslash at `start`. -/
  | escape (start : Nat)
  /-- `\x` at `start`. -/
  | hexEscape (start : Nat)
  /-- `\x` at `start` and one more character. -/
  | hexDigit (start : Nat) (high : Char)
  /-- An opening bracket at `start` and some characters, the latest first. -/
  | bracket (start : Nat) (seen : List Char)
  /-- An opening brace at `start` and some characters, the latest first. -/
  | braces (start : Nat) (seen : List Char)
  deriving DecidableEq, Repr, Inhabited

/-- What reading one character leads to. -/
inductive Step where
  /-- The construct goes on. -/
  | advance (mode : Mode)
  /-- The construct is complete. -/
  | finish (piece : Piece)
  /-- The pattern cannot go on. -/
  | stop (halt : Halt)
  deriving DecidableEq, Repr, Inhabited

/-- The step that ends with a complete atom. -/
def finishAtom (start : Nat) (atom : Atom) : Step :=
  .finish ⟨start, .atom atom⟩

/-- The step that ends with a complete quantifier. -/
def finishQuantifier (start : Nat) (quantifier : Quantifier) : Step :=
  .finish ⟨start, .quantifier quantifier⟩

/-- Read the first character of a construct. -/
def openStep (rule : BraceRule) (offset : Nat) (ch : Char) (rest : List Char) : Step :=
  match Opener.ofChar ch with
  | .literal ch => finishAtom offset (.literal ch)
  | .dot => finishAtom offset .dot
  | .escape => .advance (.escape offset)
  | .bracket => .advance (.bracket offset [])
  | .star => finishQuantifier offset .star
  | .plus => finishQuantifier offset .plus
  | .question => finishQuantifier offset .question
  | .brace =>
      if rule offset rest then .advance (.braces offset []) else finishAtom offset (.literal ch)

/-- Close the bracket that opened at `start`. -/
def closeBracket (start : Nat) (body : List Char) : Step :=
  if body.isEmpty then .stop ⟨[], .emptyBracket start⟩ else finishAtom start (.bracket body)

/-- Close the braces that opened at `start`. -/
def closeBraces (start : Nat) (body : List Char) : Step :=
  match Bounds.read body with
  | .ok bounds => finishQuantifier start (.braces body bounds)
  | .error (.foreign index ch) => .stop ⟨[], .invalidRepeatBody (start + 1 + index) ch⟩
  | .error .malformed => .stop ⟨[], .malformedRange start (String.ofList body)⟩

/-- Read the second hexadecimal digit of the escape that started at `start`. -/
def closeHexEscape (start : Nat) (high low : Char) : Step :=
  if (hexDigit? high).isSome && (hexDigit? low).isSome then
    finishAtom start (.hexEscape high low)
  else .stop ⟨[], .invalidHexEscape start (String.ofList [high, low])⟩

/-- Read one character. -/
def step (rule : BraceRule) (offset : Nat) (ch : Char) (rest : List Char) : Mode → Step
  | .ready => openStep rule offset ch rest
  | .escape start =>
      if ch = 'x' then .advance (.hexEscape start) else finishAtom start (.escape ch)
  | .hexEscape start => .advance (.hexDigit start ch)
  | .hexDigit start high => closeHexEscape start high ch
  | .bracket start seen =>
      if ch = ']' then closeBracket start seen.reverse else .advance (.bracket start (ch :: seen))
  | .braces start seen =>
      if ch = '\x7d' then closeBraces start seen.reverse
      else .advance (.braces start (ch :: seen))

/-- What the end of the pattern means: braces are only opened if they close, so text that is
left between them has no reading. -/
def atEnd : Mode → Option Halt
  | .ready => none
  | .escape start => some ⟨[], .unterminatedEscape start⟩
  | .hexEscape start => some ⟨[], .unterminatedEscape start⟩
  | .hexDigit start _ => some ⟨[], .unterminatedEscape start⟩
  | .bracket start seen =>
      some ⟨Bracket.warnings (start + 1) seen.reverse, .unmatchedBracket start⟩
  | .braces start seen => some ⟨[], .malformedRange start (String.ofList seen.reverse)⟩

/-- The result of a reading that starts with one more construct. -/
def prepend (piece : Piece) (scan : Scan) : Scan :=
  { scan with pieces := piece :: scan.pieces }

/-- Read on from the given mode and offset. -/
def readFrom (rule : BraceRule) : Mode → Nat → List Char → Scan
  | mode, _, [] => ⟨[], atEnd mode⟩
  | mode, offset, ch :: rest =>
      match step rule offset ch rest mode with
      | .advance mode => readFrom rule mode (offset + 1) rest
      | .finish piece => prepend piece (readFrom rule .ready (offset + 1) rest)
      | .stop halt => ⟨[], some halt⟩

/-! ## Reading a whole pattern -/

/-- The offset of the last closing brace of a text that starts at `offset`, or else `found`. -/
def lastCloseFrom (found : Option Nat) (offset : Nat) : List Char → Option Nat
  | [] => found
  | ch :: rest => lastCloseFrom (if ch = '\x7d' then some offset else found) (offset + 1) rest

/-- The offset of the last closing brace of a pattern. -/
def lastClose? (pattern : List Char) : Option Nat :=
  lastCloseFrom none 0 pattern

/-- An opening brace starts a quantifier if the last closing brace stands behind it. -/
def closesBehind (lastClose : Option Nat) : BraceRule :=
  fun offset _ => lastClose.any fun close => decide (offset < close)

/-- Read a pattern. -/
def ofPattern (pattern : List Char) : Scan :=
  readFrom (closesBehind (lastClose? pattern)) .ready 0 pattern

end Scan

end PatternDraw
