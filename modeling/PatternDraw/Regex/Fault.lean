/-!
# Faults in search expressions

A text that is no search expression has a fault at a stretch of the text.  The fault is shown
with the text itself, the stretch being marked by carets on a line of its own; a fault that
comes from a clash has the earlier stretch marked too.  If the text has several lines, they
are numbered, and a stretch over several lines is described in words.
-/

namespace PatternDraw.Regex

/-- A stretch of a text: the number of characters before its start and before its end. -/
structure Span where
  /-- Where the stretch starts. -/
  start : Nat
  /-- Where the stretch ends. -/
  stop : Nat
  deriving DecidableEq, Repr, Inhabited

/-- The number of constructs that may stand one within the other. -/
def nestLimit : Nat :=
  250

/-- What can be wrong with a text. -/
inductive FaultKind where
  | groupUnclosed
  | groupUnopened
  | groupNameEmpty
  | groupNameInvalid
  | groupNameUnclosed
  | groupNameDuplicate
  | flagUnrecognized
  | flagDuplicate
  | flagNegationRepeated
  | flagNegationDangling
  | flagUnclosed
  | lookAround
  | backreference
  | repetitionMissing
  | countUnclosed
  | countInvalid
  | countEmpty
  | numberInvalid
  | bracketUnclosed
  | bracketEscapeInvalid
  | intervalEndInvalid
  | intervalReversed
  | escapeUnclosed
  | escapeUnrecognized
  | hexEmpty
  | hexDigitInvalid
  | hexInvalid
  | boundaryUnclosed
  | boundaryUnrecognized
  | boundaryOrCountUnclosed
  | propertyInvalid
  | propertyNotFound
  | propertyValueNotFound
  | shorthandNotFound
  | caseUnavailable
  | wideNotAllowed
  | strayBytes
  | tooDeep
  deriving DecidableEq, Repr, Inhabited

namespace FaultKind

/-- The kind of fault in words. -/
def message : FaultKind → String
  | groupUnclosed => "unclosed group"
  | groupUnopened => "unopened group"
  | groupNameEmpty => "empty capture group name"
  | groupNameInvalid => "invalid capture group character"
  | groupNameUnclosed => "unclosed capture group name"
  | groupNameDuplicate => "duplicate capture group name"
  | flagUnrecognized => "unrecognized flag"
  | flagDuplicate => "duplicate flag"
  | flagNegationRepeated => "flag negation operator repeated"
  | flagNegationDangling => "dangling flag negation operator"
  | flagUnclosed => "expected flag but got end of regex"
  | lookAround => "look-around, including look-ahead and look-behind, is not supported"
  | backreference => "backreferences are not supported"
  | repetitionMissing => "repetition operator missing expression"
  | countUnclosed => "unclosed counted repetition"
  | countInvalid => "invalid repetition count range, the start must be <= the end"
  | countEmpty => "repetition quantifier expects a valid decimal"
  | numberInvalid => "decimal literal invalid"
  | bracketUnclosed => "unclosed character class"
  | bracketEscapeInvalid => "invalid escape sequence found in character class"
  | intervalEndInvalid => "invalid range boundary, must be a literal"
  | intervalReversed => "invalid character class range, the start must be <= the end"
  | escapeUnclosed => "incomplete escape sequence, reached end of pattern prematurely"
  | escapeUnrecognized => "unrecognized escape sequence"
  | hexEmpty => "hexadecimal literal empty"
  | hexDigitInvalid => "invalid hexadecimal digit"
  | hexInvalid => "hexadecimal literal is not a Unicode scalar value"
  | boundaryUnclosed =>
      "special word boundary assertion is either unclosed or contains an invalid character"
  | boundaryUnrecognized =>
      "unrecognized special word boundary assertion, " ++
        "valid choices are: start, end, start-half or end-half"
  | boundaryOrCountUnclosed =>
      "found either the beginning of a special word boundary or a bounded repetition " ++
        "on a \\b with an opening brace, but no closing brace"
  | propertyInvalid => "invalid Unicode character class"
  | propertyNotFound => "Unicode property not found"
  | propertyValueNotFound => "Unicode property value not found"
  | shorthandNotFound =>
      "Unicode-aware Perl class not found (make sure the unicode-perl feature is enabled)"
  | caseUnavailable =>
      "Unicode-aware case insensitivity matching is not available " ++
        "(make sure the unicode-case feature is enabled)"
  | wideNotAllowed => "Unicode not allowed here"
  | strayBytes => "pattern can match invalid UTF-8"
  | tooDeep =>
      "exceed the maximum number of nested parentheses/brackets (" ++ toString nestLimit ++ ")"

end FaultKind

/-- A fault of a text. -/
structure Fault where
  /-- What is wrong. -/
  kind : FaultKind
  /-- Where it is wrong. -/
  span : Span
  /-- What it clashes with. -/
  earlier : Option Span := none
  deriving DecidableEq, Repr, Inhabited

namespace Fault

/-! ## Lines and columns -/

/-- The line and the column of an offset, both counted from zero. -/
def place (text : List Char) (offset : Nat) : Nat × Nat :=
  let before := text.take offset
  (before.count '\n', (before.reverse.takeWhile (· != '\n')).length)

/-- A line without the carriage return at its end. -/
def withoutReturn (line : List Char) : List Char :=
  if line.getLast? = some '\r' then line.dropLast else line

/-- The lines of a text, without their ends.  A line feed at the end starts no further line. -/
def linesOf (text : List Char) : List (List Char) :=
  let pieces := text.splitOn '\n'
  pieces.dropLast.map withoutReturn ++ pieces.getLast?.toList.filter fun line => !line.isEmpty

/-! ## Marks -/

/-- Mark the columns of a stretch with carets, an empty one with a single caret. -/
def mark (indent : Nat) (marks : List Char) (columns : Nat × Nat) : List Char :=
  marks.rightpad (indent + columns.1) ' ' ++
    List.replicate (max 1 (columns.2 - columns.1)) '^'

/-- Where a stretch starts and ends, by line and column. -/
structure Extent where
  /-- The line and the column of the start. -/
  first : Nat × Nat
  /-- The line and the column of the end. -/
  last : Nat × Nat
  deriving DecidableEq, Repr, Inhabited

/-- The lines and columns of a stretch. -/
def extent (text : List Char) (span : Span) : Extent :=
  ⟨place text span.start, place text span.stop⟩

/-- The columns of the stretches that lie on one line, the line being given. -/
def columnsOn (extents : List Extent) (line : Nat) : List (Nat × Nat) :=
  (extents.filter fun extent => extent.first.1 == line && extent.last.1 == line).map
    fun extent => (extent.first.2, extent.last.2)

/-- A line of the text, and below it the marks of the stretches on it. -/
def markedLine (indent : Nat) (label line : List Char) (columns : List (Nat × Nat)) : String :=
  let marks := columns.foldl (mark indent) []
  String.ofList (label ++ line ++ ['\n'] ++ if marks.isEmpty then [] else marks ++ ['\n'])

/-- The number of a line, in the width of the greatest number. -/
def label (width number : Nat) : List Char :=
  let digits := (toString number).toList
  List.replicate (width - digits.length) ' ' ++ digits ++ [':', ' ']

/-- The stretches over several lines, one to a line. -/
def longStretches (extents : List Extent) : String :=
  String.join ((extents.filter fun extent => extent.first.1 != extent.last.1).map fun extent =>
    "on line " ++ toString (extent.first.1 + 1) ++
      " (column " ++ toString (extent.first.2 + 1) ++
      ") through line " ++ toString (extent.last.1 + 1) ++
      " (column " ++ toString extent.last.2 ++ ")\n")

/-! ## The whole message -/

/-- A fault as lines of text; the last line has no end. -/
def message (fault : Fault) (pattern : String) : String :=
  let text := pattern.toList
  let extents := (fault.earlier.toList ++ [fault.span]).map (extent text)
  let lines := linesOf text
  let lineCount := lines.length + if text.getLast? = some '\n' then 1 else 0
  let last := "error: " ++ fault.kind.message
  let marked (indent : Nat) (label : Nat → List Char) : String :=
    String.join (lines.mapIdx fun line chars =>
      markedLine indent (label line) chars (columnsOn extents line))
  if text.contains '\n' then
    let width := (toString lineCount).length
    let divider := String.ofList (List.replicate 79 '~') ++ "\n"
    "regex parse error:\n" ++ divider ++
      marked (width + 2) (fun line => label width (line + 1)) ++ divider ++
      longStretches extents ++ last
  else
    "regex parse error:\n" ++ marked 4 (fun _ => [' ', ' ', ' ', ' ']) ++ last

end Fault

end PatternDraw.Regex
