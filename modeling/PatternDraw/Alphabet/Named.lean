import PatternDraw.Alphabet.Basic

/-!
# Named alphabets

The alphabets that patterns refer to by a short name: letters, digits, punctuation, their
union, the characters of a password salt, and all single bytes.
-/

namespace PatternDraw.Alphabet

/-- The ASCII capital letters. -/
def upper : Alphabet :=
  interval 0x41 0x5a

/-- The ASCII small letters. -/
def lower : Alphabet :=
  interval 0x61 0x7a

/-- The ASCII decimal digits. -/
def digit : Alphabet :=
  interval 0x30 0x39

/-- ASCII punctuation: all visible characters but letters and digits. -/
def punctuation : Alphabet :=
  union [interval 0x21 0x2f, interval 0x3a 0x40, interval 0x5b 0x60, interval 0x7b 0x7e]

/-- All visible ASCII characters, letters and digits first. -/
def visible : Alphabet :=
  union [upper, lower, digit, punctuation]

/-- The letters, the digits, the full stop and the slash. -/
def salt : Alphabet :=
  union [upper, lower, digit, ofString "./"]

/-- The characters U+0000 to U+00FF, which stand for the bytes. -/
def bytes : Alphabet :=
  interval 0x00 0xff

/-- All visible ASCII characters but the digits. -/
def nonDigit : Alphabet :=
  union [upper, lower, punctuation]

/-- The letters, the digits and the underscore. -/
def word : Alphabet :=
  union [upper, lower, digit, single '_']

/-- Punctuation other than the underscore. -/
def nonWord : Alphabet :=
  punctuation.without '_'

/-- The space and the tab. -/
def blank : Alphabet :=
  ofString " \t"

end PatternDraw.Alphabet
