import PatternDraw.Regex.Fault
import PatternDraw.Text.Blank

/-!
# Reading places

A cursor is a place in the text that is read: the number of characters before it and the
characters behind it.  Where blanks are skipped, so are comments from a hash sign to the end of
the line.
-/

namespace PatternDraw.Regex

/-- A place in a text that is read. -/
structure Cursor where
  /-- The number of characters before the place. -/
  offset : Nat
  /-- The characters behind the place. -/
  rest : List Char
  /-- The number of all characters. -/
  size : Nat
  /-- Whether blanks and comments between the parts of the text are skipped. -/
  skipsBlanks : Bool
  deriving DecidableEq, Repr, Inhabited

namespace Cursor

/-- The start of a text. -/
def ofText (text : String) : Cursor :=
  ⟨0, text.toList, text.toList.length, false⟩

/-- The number of characters behind a place. -/
def left (cursor : Cursor) : Nat :=
  cursor.size - cursor.offset

/-! ## Stretches -/

/-- The empty stretch at a place. -/
def here (cursor : Cursor) : Span :=
  ⟨cursor.offset, cursor.offset⟩

/-- The stretch of the character behind a place. -/
def onChar (cursor : Cursor) : Span :=
  ⟨cursor.offset, cursor.offset + 1⟩

/-- The stretch from an earlier place up to this one. -/
def since (cursor : Cursor) (start : Cursor) : Span :=
  ⟨start.offset, cursor.offset⟩

/-! ## Moving -/

/-- The place behind the next character. -/
def advance (cursor : Cursor) : Cursor :=
  match cursor.rest with
  | [] => cursor
  | _ :: rest => { cursor with offset := cursor.offset + 1, rest := rest }

/-- The place a number of characters further on. -/
def advanceBy (cursor : Cursor) : Nat → Cursor
  | 0 => cursor
  | count + 1 => cursor.advance.advanceBy count

/-- The number of leading characters that are blanks or belong to comments, given whether a
comment has begun. -/
def blankCount : Bool → List Char → Nat
  | _, [] => 0
  | true, ch :: rest => 1 + blankCount (ch != '\n') rest
  | false, ch :: rest =>
      if Text.isBlank ch then 1 + blankCount false rest
      else if ch == '\x23' then 1 + blankCount true rest
      else 0

/-- The place behind blanks and comments, if these are skipped. -/
def skip (cursor : Cursor) : Cursor :=
  if cursor.skipsBlanks then cursor.advanceBy (blankCount false cursor.rest) else cursor

/-- The place behind the next character and what is skipped after it. -/
def next (cursor : Cursor) : Cursor :=
  cursor.advance.skip

/-- The place behind the given characters, if they are next. -/
def after? (cursor : Cursor) (word : String) : Option Cursor :=
  if word.toList.isPrefixOf cursor.rest then some (cursor.advanceBy word.toList.length)
  else none

/-- Whether the text ends at a place. -/
def atEnd (cursor : Cursor) : Bool :=
  cursor.rest.isEmpty

/-- Whether a character is next. -/
def isAt (cursor : Cursor) (ch : Char) : Bool :=
  cursor.rest.head? == some ch

/-- The place behind the next character and what is skipped after it, if the text does not
end there. -/
def nextUnlessEnd (cursor : Cursor) (fault : Cursor → Fault) : Except Fault Cursor :=
  if cursor.next.atEnd then .error (fault cursor.next) else .ok cursor.next

end Cursor

end PatternDraw.Regex
