import PatternDraw.Text.Escaped

/-!
# Warnings about patterns

A character that has a meaning in other pattern languages, or a spelling that has no effect,
does not stop a pattern from being compiled: it is taken literally and noted in a warning.
-/

namespace PatternDraw

/-- What a warning is about. -/
inductive WarningKind where
  /-- A mark of other pattern languages stands for itself. -/
  | metacharacter
  /-- A backslash before a character that needs none. -/
  | unknownEscape
  /-- A backslash before an octal digit. -/
  | octalEscape
  /-- A mark within brackets stands for itself. -/
  | bracketLiteral
  /-- A range within brackets ends before it starts. -/
  | reversedRange
  deriving DecidableEq, Repr, Inhabited

/-- A warning about the character `ch`, found at `offset`. -/
structure Warning where
  /-- What the warning is about. -/
  kind : WarningKind
  /-- The character concerned. -/
  ch : Char
  /-- Where it was found, in characters from the start of the pattern. -/
  offset : Nat
  deriving DecidableEq, Repr, Inhabited

namespace Warning

/-- The warning without its place; the character is written in its escaped form. -/
def summary (warning : Warning) : String :=
  let shown := String.ofList (Text.escapeAlone warning.ch)
  match warning.kind with
  | .metacharacter => "'" ++ shown ++ "' not implemented, treating literally"
  | .unknownEscape => "'\\" ++ shown ++ "' being treated as literal '" ++ shown ++ "'"
  | .octalEscape => "octal parsing not implemented, treating '" ++ shown ++ "' literally"
  | .bracketLiteral => "'" ++ shown ++ "' will be treated literally inside []"
  | .reversedRange => "range ending in '" ++ shown ++ "' is reversed and adds nothing"

/-- The warning as a line of text. -/
def message (warning : Warning) : String :=
  warning.summary ++ " (offset " ++ toString warning.offset ++ ")"

end Warning

end PatternDraw
