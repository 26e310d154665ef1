import PatternDraw.Regex.Cursor
import PatternDraw.Regex.Tree
import PatternDraw.Text.Decimal
import PatternDraw.Text.Scalar

/-!
# Escapes

A backslash gives marks their plain meaning and some letters a special one: a control
character, a character by its code point in hexadecimal, a set of characters or an anchor.
-/

namespace PatternDraw.Regex.Escape

/-! ## Hexadecimal code points -/

/-- The value of a hexadecimal digit. -/
def hexDigit? (ch : Char) : Option Nat :=
  if '0' ≤ ch ∧ ch ≤ '9' then some (ch.toNat - '0'.toNat)
  else if 'a' ≤ ch ∧ ch ≤ 'f' then some (ch.toNat - 'a'.toNat + 10)
  else if 'A' ≤ ch ∧ ch ≤ 'F' then some (ch.toNat - 'A'.toNat + 10)
  else none

/-- Read the given number of digits after those with the given value. -/
def hexDigits : Nat → Nat → Cursor → Except Fault (Nat × Cursor)
  | 0, value, cursor => .ok (value, cursor)
  | count + 1, value, cursor =>
      match cursor.rest with
      | [] => .error ⟨.escapeUnclosed, cursor.here, none⟩
      | ch :: _ =>
          match hexDigit? ch with
          | some digit => hexDigits count (16 * value + digit) cursor.next
          | none => .error ⟨.hexDigitInvalid, cursor.onChar, none⟩

/-- Read digits up to the closing brace, of which there are at most as many as the first
argument says.  The result is their value, if there are any, and the place of the brace. -/
def bracedDigits (start : Cursor) :
    Nat → Option Nat → Cursor → Except Fault (Option Nat × Cursor)
  | 0, _, cursor => .error ⟨.escapeUnclosed, cursor.since start, none⟩
  | count + 1, value, cursor =>
      match cursor.rest with
      | [] => .error ⟨.escapeUnclosed, cursor.since start, none⟩
      | '\x7d' :: _ => .ok (value, cursor)
      | ch :: _ =>
          match hexDigit? ch with
          | some digit => bracedDigits start count (some (16 * value.getD 0 + digit)) cursor.next
          | none => .error ⟨.hexDigitInvalid, cursor.onChar, none⟩

/-- The character with the given code point, whose digits take the given stretch. -/
def scalar (value : Nat) (digits : Span) : Except Fault Char :=
  match Text.scalar? value with
  | some ch => .ok ch
  | none => .error ⟨.hexInvalid, digits, none⟩

/-- Read a code point from the letter that announces it: the given number of digits, or any
number of them in braces.  Two digits without braces may stand for a byte. -/
def codePoint (size : Nat) (escape cursor : Cursor) : Except Fault (Atom × Cursor) := do
  let start ← cursor.nextUnlessEnd fun place => ⟨.escapeUnclosed, place.here, none⟩
  if start.isAt '\x7b' then
    let (value, brace) ← bracedDigits start (start.left + 1) none start.next
    let behind := brace.next
    match value with
    | none => throw ⟨.hexEmpty, behind.since start, none⟩
    | some value =>
        let ch ← scalar value (brace.since start.advance)
        return (.letter ⟨behind.since escape, ch, false⟩, behind)
  else
    let (value, behind) ← hexDigits size 0 start
    let ch ← scalar value (behind.since start)
    return (.letter ⟨behind.since escape, ch, size == 2⟩, behind)

/-! ## Boundaries of words -/

/-- Whether a character may stand in the name of a boundary. -/
def isBoundaryNameChar (ch : Char) : Bool :=
  ch.isAlpha || ch == '-'

/-- Read the name of a boundary, of which there are at most as many characters as the first
argument says.  Those read before are given, the last one first. -/
def boundaryName : Nat → List Char → Cursor → List Char × Cursor
  | 0, reversed, cursor => (reversed.reverse, cursor)
  | count + 1, reversed, cursor =>
      match cursor.rest with
      | ch :: _ =>
          if isBoundaryNameChar ch then boundaryName count (ch :: reversed) cursor.next
          else (reversed.reverse, cursor)
      | [] => (reversed.reverse, cursor)

/-- The condition with the given name. -/
def boundary? (name : List Char) : Option WordCondition :=
  match String.ofList name with
  | "start" => some .start
  | "end" => some .stop
  | "start-half" => some .noneBefore
  | "end-half" => some .noneAfter
  | _ => none

/-- Read what follows the letter of a word boundary: the name of a special boundary in braces,
or nothing.  Braces that hold no name are left for a repetition. -/
def wordBoundary (escape cursor : Cursor) : Except Fault (Atom × Cursor) := do
  let plain : Atom × Cursor := (.anchor (cursor.since escape) (.words .boundary), cursor)
  if !cursor.isAt '\x7b' then
    return plain
  let start ← cursor.nextUnlessEnd fun place =>
    ⟨.boundaryOrCountUnclosed, place.since escape, none⟩
  if !start.rest.head?.any isBoundaryNameChar then
    return plain
  let (name, behind) := boundaryName start.left [] start
  if !behind.isAt '\x7d' then
    throw ⟨.boundaryUnclosed, behind.since cursor, none⟩
  match boundary? name with
  | some condition =>
      return (.anchor (behind.advance.since escape) (.words condition), behind.advance)
  | none => throw ⟨.boundaryUnrecognized, behind.since start, none⟩

/-! ## Properties -/

/-- Read the name of a property up to the brace that closes it. -/
def propertyName : Nat → List Char → Cursor → Except Fault (List Char × Cursor)
  | 0, _, cursor => .error ⟨.escapeUnclosed, cursor.here, none⟩
  | count + 1, reversed, cursor =>
      match cursor.rest with
      | [] => .error ⟨.escapeUnclosed, cursor.here, none⟩
      | '\x7d' :: _ => .ok (reversed.reverse, cursor)
      | ch :: _ => propertyName count (ch :: reversed) cursor.next

/-- Read a property: a letter, or a name in braces. -/
def property (escape cursor : Cursor) : Except Fault (Atom × Cursor) := do
  let start ← cursor.nextUnlessEnd fun place => ⟨.escapeUnclosed, place.here, none⟩
  match start.rest with
  | '\x7b' :: _ =>
      let (name, brace) ← propertyName (start.left + 1) [] start.next
      return (.property (brace.advance.since escape) name, brace.advance)
  | '\\' :: _ => throw ⟨.propertyInvalid, start.onChar, none⟩
  | _ => return (.property (start.next.since escape) (start.rest.take 1), start.next)

/-! ## All escapes -/

/-- What a mark or letter stands for behind a backslash. -/
inductive Meaning where
  /-- A character. -/
  | char (ch : Char)
  /-- A condition on the place. -/
  | anchor (anchor : Anchor)
  /-- A set, or its complement. -/
  | shorthand (shorthand : Shorthand) (negated : Bool)
  deriving DecidableEq, Repr, Inhabited

/-- The meaning of a character behind a backslash: marks of ASCII stand for themselves, and
letters only for what is listed. -/
def meaning? (ch : Char) : Option Meaning :=
  match ch with
  | 'a' => some (.char '\x07')
  | 'f' => some (.char '\x0c')
  | 't' => some (.char '\t')
  | 'n' => some (.char '\n')
  | 'r' => some (.char '\r')
  | 'v' => some (.char '\x0b')
  | 'A' => some (.anchor .textStart)
  | 'z' => some (.anchor .textEnd)
  | 'B' => some (.anchor (.words .noBoundary))
  | '<' => some (.anchor (.words .start))
  | '>' => some (.anchor (.words .stop))
  | 'd' => some (.shorthand .digit false)
  | 's' => some (.shorthand .space false)
  | 'w' => some (.shorthand .word false)
  | 'D' => some (.shorthand .digit true)
  | 'S' => some (.shorthand .space true)
  | 'W' => some (.shorthand .word true)
  | ch => if ch.toNat < 0x80 && !ch.isAlphanum then some (.char ch) else none

/-- The atom with a meaning, written as the given stretch. -/
def Meaning.atom (span : Span) : Meaning → Atom
  | char ch => .letter ⟨span, ch, false⟩
  | anchor found => .anchor span found
  | shorthand found negated => .shorthand span found negated

/-- Read an escape from its backslash on. -/
def read (escape : Cursor) : Except Fault (Atom × Cursor) :=
  let cursor := escape.advance
  match cursor.rest with
  | [] => .error ⟨.escapeUnclosed, cursor.since escape, none⟩
  | ch :: _ =>
      let behind := cursor.advance
      match ch with
      | 'x' => codePoint 2 escape cursor
      | 'u' => codePoint 4 escape cursor
      | 'U' => codePoint 8 escape cursor
      | 'p' => property escape cursor
      | 'P' => property escape cursor
      | 'b' => wordBoundary escape behind
      | ch =>
          if Text.Decimal.isDigit ch then .error ⟨.backreference, behind.since escape, none⟩
          else
            match meaning? ch with
            | some found => .ok (found.atom (behind.since escape), behind)
            | none => .error ⟨.escapeUnrecognized, behind.since escape, none⟩

end PatternDraw.Regex.Escape
