/-!
# What a character opens

At the top level of a pattern seven characters have a meaning of their own; every other one
stands for itself.  Some of those that stand for themselves are marks of other pattern
languages, which are worth a warning.
-/

namespace PatternDraw

/-- What a character opens at the top level of a pattern. -/
inductive Opener where
  | literal (ch : Char)
  | dot
  | escape
  | bracket
  | star
  | plus
  | question
  | brace
  deriving DecidableEq, Repr, Inhabited

namespace Opener

/-- What the given character opens. -/
def ofChar (ch : Char) : Opener :=
  match ch with
  | '.' => dot
  | '\\' => escape
  | '[' => bracket
  | '*' => star
  | '+' => plus
  | '?' => question
  | '\x7b' => brace
  | ch => literal ch

end Opener

/-- Whether a character is a mark of other pattern languages. -/
def isMetacharacter (ch : Char) : Bool :=
  match ch with
  | '$' | '^' | '*' | '(' | ')' | '+' | '\x7b' | '\x7d' | ']' | '|' | '?' => true
  | _ => false

end PatternDraw
