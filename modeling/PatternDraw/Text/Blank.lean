import PatternDraw.Text.CodeRange

/-!
# Blank characters

The table of the characters that only leave room: the controls that move the writing position,
the space, and the spaces and separators of other widths.
-/

namespace PatternDraw.Text

/-- The code points of the blank characters. -/
def blankRanges : List CodeRange :=
  [(0x9, 0xd), (0x20, 0x20), (0x85, 0x85), (0xa0, 0xa0), (0x1680, 0x1680), (0x2000, 0x200a),
    (0x2028, 0x2029), (0x202f, 0x202f), (0x205f, 0x205f), (0x3000, 0x3000)]

/-- Whether a character only leaves room. -/
def isBlank (ch : Char) : Bool :=
  CodeRange.covers ch.toNat blankRanges

/-- A text without the blanks at either end. -/
def trimBlanks (text : String) : String :=
  let inner := text.toList.dropWhile isBlank
  String.ofList (inner.reverse.dropWhile isBlank).reverse

end PatternDraw.Text
