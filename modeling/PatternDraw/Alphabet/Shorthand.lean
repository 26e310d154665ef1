import PatternDraw.Alphabet.Named

/-!
# Shorthand escapes

A backslash and one of twelve letters stands for a named alphabet or for a control character.
-/

namespace PatternDraw

/-- What a letter after a backslash stands for. -/
inductive Shorthand where
  | digit
  | nonDigit
  | word
  | nonWord
  | space
  | nonSpace
  | tab
  | newline
  | carriageReturn
  | formFeed
  | bell
  | escape
  deriving DecidableEq, Repr, Inhabited

namespace Shorthand

/-- The shorthand of a letter, if it has one. -/
def ofChar? (ch : Char) : Option Shorthand :=
  match ch with
  | 'd' => some digit
  | 'D' => some nonDigit
  | 'w' => some word
  | 'W' => some nonWord
  | 's' => some space
  | 'S' => some nonSpace
  | 't' => some tab
  | 'n' => some newline
  | 'r' => some carriageReturn
  | 'f' => some formFeed
  | 'a' => some bell
  | 'e' => some escape
  | _ => none

/-- The alphabet that a shorthand stands for. -/
def alphabet : Shorthand → Alphabet
  | digit => .digit
  | nonDigit => .nonDigit
  | word => .word
  | nonWord => .nonWord
  | space => .blank
  | nonSpace => .visible
  | tab => .single '\t'
  | newline => .single '\n'
  | carriageReturn => .single '\r'
  | formFeed => .single '\x0c'
  | bell => .single '\x07'
  | escape => .single '\x1b'

end Shorthand

end PatternDraw
