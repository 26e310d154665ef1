import PatternDraw.Text.Combining
import PatternDraw.Text.Unprintable

/-!
# Escaped text

Text is shown with a backslash before a backslash or a quote, with the usual letters for NUL,
tab, carriage return and line feed, and with `\u` and the code point in braces for every other
character that would not stand as itself.  Two forms differ in the apostrophe only: a single
character has it escaped, a text within double quotes does not.
-/

namespace PatternDraw.Text

/-- The letter or mark that stands after the backslash in the short escape of a character. -/
def shortEscape? (ch : Char) : Option Char :=
  match ch with
  | '\x00' => some '0'
  | '\t' => some 't'
  | '\r' => some 'r'
  | '\n' => some 'n'
  | '\\' => some '\\'
  | '"' => some '"'
  | _ => none

/-- The escape of a character by its code point: lower-case hexadecimal without padding. -/
def codePointEscape (ch : Char) : List Char :=
  ['\\', 'u', '\x7b'] ++ Nat.toDigits 16 ch.toNat ++ ['\x7d']

/-- Whether a character may stand as itself where it has no short escape. -/
def standsAsItself (ch : Char) : Bool :=
  !(isUnprintable ch || isCombining ch)

/-- A character as it is written inside double quotes. -/
def escapeInText (ch : Char) : List Char :=
  match shortEscape? ch with
  | some mark => ['\\', mark]
  | none => if standsAsItself ch then [ch] else codePointEscape ch

/-- A character as it is written on its own: the apostrophe is escaped too. -/
def escapeAlone (ch : Char) : List Char :=
  if ch = '\'' then ['\\', '\''] else escapeInText ch

/-- A text in double quotes, its characters escaped. -/
def quoted (text : String) : String :=
  String.ofList ('"' :: text.toList.flatMap escapeInText ++ ['"'])

end PatternDraw.Text
