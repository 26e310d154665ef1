import PatternDraw.Alphabet.Shorthand
import PatternDraw.Pattern.Bounds
import PatternDraw.Pattern.Bracket
import PatternDraw.Pattern.Opener

/-!
# The constructs of a pattern

A pattern is a row of constructs.  An atom stands for one position of the text and lists the
characters that may come there; a quantifier says how often the position before it is
repeated.  Every construct keeps its spelling, so a pattern is the row of the texts of its
constructs.
-/

namespace PatternDraw

/-! ## Atoms -/

/-- A construct that stands for one position of the text. -/
inductive Atom where
  /-- A character that stands for itself. -/
  | literal (ch : Char)
  /-- A full stop: any visible ASCII character. -/
  | dot
  /-- `\x` and two hexadecimal digits: the character with that code point. -/
  | hexEscape (high low : Char)
  /-- A backslash and one character other than `x`. -/
  | escape (ch : Char)
  /-- A bracketed list of characters. -/
  | bracket (body : List Char)
  deriving DecidableEq, Repr, Inhabited

/-- The value of a hexadecimal digit of either case. -/
def hexDigit? (ch : Char) : Option Nat :=
  if '0' ≤ ch ∧ ch ≤ '9' then some (ch.toNat - '0'.toNat)
  else if 'a' ≤ ch ∧ ch ≤ 'f' then some (ch.toNat - 'a'.toNat + 10)
  else if 'A' ≤ ch ∧ ch ≤ 'F' then some (ch.toNat - 'A'.toNat + 10)
  else none

theorem hexDigit?_digitChar {value : Nat} (digit : value < 16) :
    hexDigit? value.digitChar = some value := by
  have each : ∀ value < 16, hexDigit? value.digitChar = some value := by decide
  exact each value digit

/-- Whether a character is an octal digit. -/
def isOctalDigit (ch : Char) : Bool :=
  decide ('0' ≤ ch) && decide (ch ≤ '7')

namespace Atom

/-- The text of an atom. -/
def text : Atom → List Char
  | literal ch => [ch]
  | dot => ['.']
  | hexEscape high low => ['\\', 'x', high, low]
  | escape ch => ['\\', ch]
  | bracket body => '[' :: body ++ [']']

/-- The character with the code point that two hexadecimal digits spell. -/
def hexChar (high low : Char) : Char :=
  Char.ofNat (16 * (hexDigit? high).getD 0 + (hexDigit? low).getD 0)

/-- The alphabet from which the position of an atom is drawn. -/
def alphabet : Atom → Alphabet
  | literal ch => .single ch
  | dot => .visible
  | hexEscape high low => .single (hexChar high low)
  | escape ch =>
      match Shorthand.ofChar? ch with
      | some shorthand => shorthand.alphabet
      | none => .single ch
  | bracket body => Bracket.alphabet body

/-- The warnings about an atom that starts at the given offset. -/
def warnings (offset : Nat) : Atom → List Warning
  | literal ch => if isMetacharacter ch then [⟨.metacharacter, ch, offset⟩] else []
  | dot => []
  | hexEscape _ _ => []
  | escape ch =>
      if isOctalDigit ch then [⟨.octalEscape, ch, offset⟩]
      else if (Shorthand.ofChar? ch).isSome then []
      else [⟨.unknownEscape, ch, offset⟩]
  | bracket body => Bracket.warnings (offset + 1) body

end Atom

/-! ## Quantifiers -/

/-- A construct that says how often the position before it is repeated. -/
inductive Quantifier where
  /-- `*`: any number of times. -/
  | star
  /-- `+`: at least once. -/
  | plus
  /-- `?`: at most once. -/
  | question
  /-- Bounds between braces, with the text in which they are written. -/
  | braces (body : List Char) (bounds : Bounds)
  deriving DecidableEq, Repr, Inhabited

namespace Quantifier

/-- The text of a quantifier. -/
def text : Quantifier → List Char
  | star => ['*']
  | plus => ['+']
  | question => ['?']
  | braces body _ => '\x7b' :: body ++ ['\x7d']

/-- The bounds that a quantifier sets. -/
def bounds : Quantifier → Bounds
  | star => ⟨0, none⟩
  | plus => ⟨1, none⟩
  | question => ⟨0, some 1⟩
  | braces _ bounds => bounds

end Quantifier

/-! ## Constructs -/

/-- A construct: an atom or a quantifier. -/
inductive Construct where
  | atom (part : Atom)
  | quantifier (part : Quantifier)
  deriving DecidableEq, Repr, Inhabited

namespace Construct

/-- The text of a construct. -/
def text : Construct → List Char
  | .atom part => part.text
  | .quantifier part => part.text

/-- The warnings about a construct that starts at the given offset. -/
def warnings (offset : Nat) : Construct → List Warning
  | .atom part => part.warnings offset
  | .quantifier _ => []

end Construct

/-- A construct and the offset of its first character. -/
structure Piece where
  /-- The offset of the first character, in characters from the start of the pattern. -/
  offset : Nat
  /-- The construct. -/
  construct : Construct
  deriving DecidableEq, Repr, Inhabited

namespace Piece

/-- The warnings about the construct. -/
def warnings (piece : Piece) : List Warning :=
  piece.construct.warnings piece.offset

end Piece

end PatternDraw
