import PatternDraw.Alphabet.Basic
import PatternDraw.Pattern.Warning

/-!
# Bracketed lists of characters

The text between brackets lists characters one by one, and a dash between two characters is a
range: it stands for the characters after the last one listed so far, up to and including the
one behind the dash.  A dash at either end of the text stands for itself.
-/

namespace PatternDraw

/-- One entry of a bracketed list. -/
inductive BracketItem where
  /-- A character that is listed itself. -/
  | single (ch : Char)
  /-- A dash and the character that ends its range. -/
  | rangeTo (last : Char)
  deriving DecidableEq, Repr, Inhabited

namespace BracketItem

/-! ## Reading entries -/

/-- The entries of a text that has a listed character before it. -/
def read : List Char → List BracketItem
  | '-' :: last :: rest => rangeTo last :: read rest
  | ch :: rest => single ch :: read rest
  | [] => []

/-! ## What entries stand for -/

/-- The last character listed after an entry, `start` being the last one before it. -/
def lastAfter (start : Char) : BracketItem → Char
  | single ch => ch
  | rangeTo last => if start ≤ last then last else start

/-- Append the characters that an entry lists, `start` being the last one before it. -/
def append (members : Array Char) (start : Char) : BracketItem → Array Char
  | single ch => members.push ch
  | rangeTo last => Text.appendInterval members (start.toNat + 1) last.toNat

/-- Append the characters that the entries list, `start` being the last one before them. -/
def appendAll (members : Array Char) (start : Char) : List BracketItem → Array Char
  | [] => members
  | item :: rest => appendAll (item.append members start) (item.lastAfter start) rest

/-! ## Warnings -/

/-- Whether a character can be listed without a warning: an ASCII letter or digit, or `_`. -/
def isWordChar (ch : Char) : Bool :=
  ch.isAlphanum || ch == '_'

/-- The number of characters in which an entry is written. -/
def width : BracketItem → Nat
  | single _ => 1
  | rangeTo _ => 2

/-- The warnings about an entry at the given offset, `start` being the last character listed
before it. -/
def warnings (start : Char) (offset : Nat) : BracketItem → List Warning
  | single ch => if isWordChar ch then [] else [⟨.bracketLiteral, ch, offset⟩]
  | rangeTo last => if start ≤ last then [] else [⟨.reversedRange, last, offset + 1⟩]

/-- The warnings about entries from the given offset on. -/
def allWarnings (start : Char) (offset : Nat) : List BracketItem → List Warning
  | [] => []
  | item :: rest =>
      item.warnings start offset ++
        allWarnings (item.lastAfter start) (offset + item.width) rest

end BracketItem

namespace Bracket

/-- The alphabet that a bracketed text lists.  Its first character always stands for itself. -/
def alphabet : List Char → Alphabet
  | [] => ⟨#[]⟩
  | ch :: rest => ⟨BracketItem.appendAll #[ch] ch (BracketItem.read rest)⟩

/-- The warnings about a bracketed text that starts at the given offset. -/
def warnings (offset : Nat) : List Char → List Warning
  | [] => []
  | ch :: rest =>
      (BracketItem.single ch).warnings ch offset ++
        BracketItem.allWarnings ch (offset + 1) (BracketItem.read rest)

end Bracket

end PatternDraw
