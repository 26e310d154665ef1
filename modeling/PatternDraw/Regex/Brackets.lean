import PatternDraw.Regex.Escape

/-!
# Bracketed sets

Brackets list characters, intervals with a dash, sets by escape or by name between colons, and
sets in brackets of their own; a caret behind the opening bracket takes the complement.  Two
equal marks `&&`, `--` or `~~` combine what was listed before with what is listed behind.
-/

namespace PatternDraw.Regex.Brackets

/-! ## Named sets -/

/-- The code points of a set with a name. -/
def named? (name : List Char) : Option (List (Nat × Nat)) :=
  match String.ofList name with
  | "alnum" => some [(0x30, 0x39), (0x41, 0x5a), (0x61, 0x7a)]
  | "alpha" => some [(0x41, 0x5a), (0x61, 0x7a)]
  | "ascii" => some [(0x00, 0x7f)]
  | "blank" => some [(0x09, 0x09), (0x20, 0x20)]
  | "cntrl" => some [(0x00, 0x1f), (0x7f, 0x7f)]
  | "digit" => some [(0x30, 0x39)]
  | "graph" => some [(0x21, 0x7e)]
  | "lower" => some [(0x61, 0x7a)]
  | "print" => some [(0x20, 0x7e)]
  | "punct" => some [(0x21, 0x2f), (0x3a, 0x40), (0x5b, 0x60), (0x7b, 0x7e)]
  | "space" => some [(0x09, 0x0d), (0x20, 0x20)]
  | "upper" => some [(0x41, 0x5a)]
  | "word" => some [(0x30, 0x39), (0x41, 0x5a), (0x5f, 0x5f), (0x61, 0x7a)]
  | "xdigit" => some [(0x30, 0x39), (0x41, 0x46), (0x61, 0x66)]
  | _ => none

/-- Read a set by its name between colons, if there is one. -/
def namedSet? (start : Cursor) : Option (SetTree × Cursor) := do
  let cursor ← start.after? "[:"
  let negated := cursor.isAt '^'
  let cursor := if negated then cursor.advance else cursor
  let name := cursor.rest.takeWhile (· != ':')
  let behind ← (cursor.advanceBy name.length).after? ":]"
  let intervals ← named? name
  return (.named (behind.since start) intervals negated, behind)

/-! ## Brackets that are not closed yet -/

/-- Brackets that are not closed yet. -/
structure Level where
  /-- The opening bracket and the marks that belong to it. -/
  opener : Span
  /-- Whether the complement is taken. -/
  negated : Bool
  /-- What was listed before the last pair of equal marks, and how it is combined. -/
  before : Option (Combination × SetTree)
  /-- Where the listing since then starts. -/
  start : Nat
  /-- What was listed since then, the last one first. -/
  items : List SetTree
  deriving Inhabited

namespace Level

/-- List a further set. -/
def add (level : Level) (item : SetTree) : Level :=
  { level with items := item :: level.items }

/-- What was listed since the last pair of equal marks. -/
def listing (level : Level) : SetTree :=
  match level.items.reverse with
  | [] => .empty ⟨level.start, level.start⟩
  | [item] => item
  | first :: rest =>
      let last := level.items.headD first
      .union ⟨first.span.start, last.span.stop⟩ (first :: rest)

/-- What was listed so far. -/
def listed (level : Level) : SetTree :=
  match level.before with
  | none => level.listing
  | some (combination, left) =>
      let right := level.listing
      .combined ⟨left.span.start, right.span.stop⟩ combination left right

/-- Go on behind a pair of equal marks. -/
def combine (level : Level) (combination : Combination) (behind : Cursor) : Level :=
  { level with
    before := some (combination, level.listed)
    start := behind.offset
    items := [] }

/-- Where the closed brackets are written. -/
def closedSpan (level : Level) (behind : Cursor) : Span :=
  ⟨level.opener.start, behind.offset⟩

/-- The fault of brackets that are not closed. -/
def unclosed (level : Level) : Fault :=
  ⟨.bracketUnclosed, level.opener, none⟩

end Level

/-! ## Opening brackets -/

/-- A character that stands for itself at a place. -/
def plain (cursor : Cursor) (ch : Char) : SetTree :=
  .atom (.letter ⟨cursor.onChar, ch, false⟩)

/-- Read leading dashes, of which there are at most as many as the first argument says. -/
def dashes : Nat → List SetTree → Cursor → List SetTree × Cursor
  | 0, items, cursor => (items, cursor)
  | count + 1, items, cursor =>
      if cursor.isAt '-' then dashes count (plain cursor '-' :: items) cursor.next
      else (items, cursor)

/-- Read an opening bracket and what belongs to it: a caret, and dashes or a closing bracket
that stand for themselves. -/
def opening (bracket : Cursor) : Except Fault (Level × Cursor) := do
  let unclosed (place : Cursor) : Fault := ⟨.bracketUnclosed, place.since bracket, none⟩
  let cursor ← bracket.nextUnlessEnd unclosed
  let negated := cursor.isAt '^'
  let cursor ← if negated then cursor.nextUnlessEnd unclosed else pure cursor
  let start := cursor.offset
  if cursor.isAt '-' then
    let (items, behind) := dashes cursor.left [] cursor
    if behind.atEnd then
      throw ⟨.bracketUnclosed, bracket.here, none⟩
    return (⟨behind.since bracket, negated, none, start, items⟩, behind)
  else if cursor.isAt ']' then
    let behind ← cursor.nextUnlessEnd unclosed
    return (⟨behind.since bracket, negated, none, start, [plain cursor ']']⟩, behind)
  else
    return (⟨cursor.since bracket, negated, none, start, []⟩, cursor)

/-! ## Listed sets -/

/-- Read a character or an escape. -/
def atom (cursor : Cursor) : Except Fault (Atom × Cursor) :=
  match cursor.rest with
  | [] => .error ⟨.escapeUnclosed, cursor.here, none⟩
  | '\\' :: _ => Escape.read cursor
  | ch :: _ => .ok (.letter ⟨cursor.onChar, ch, false⟩, cursor.advance)

/-- An atom that is listed alone: it is not a place. -/
def single (found : Atom) : Except Fault SetTree :=
  match found with
  | .anchor span _ => .error ⟨.bracketEscapeInvalid, span, none⟩
  | found => .ok (.atom found)

/-- An atom at the end of an interval: it is a character. -/
def intervalEnd (found : Atom) : Except Fault Letter :=
  match found with
  | .letter letter => .ok letter
  | found => .error ⟨.intervalEndInvalid, found.span, none⟩

/-- The characters that are looked at behind a dash.  Where blanks are skipped, blanks are passed
over, and so is one hash sign among them. -/
def behindDash (cursor : Cursor) : List Char :=
  let rest := cursor.rest.drop 1
  if !cursor.skipsBlanks then rest
  else
    match rest.dropWhile Text.isBlank with
    | '\x23' :: comment => comment.dropWhile Text.isBlank
    | rest => rest

/-- Whether the dash at a place is the mark of an interval. -/
def isIntervalMark (cursor : Cursor) : Bool :=
  cursor.isAt '-' &&
    (behindDash cursor).head?.all fun ch => ch != ']' && ch != '-'

/-- Read an atom or an interval between two characters. -/
def item (level : Level) (start : Cursor) : Except Fault (SetTree × Cursor) := do
  let (first, behindFirst) ← atom start
  let cursor := behindFirst.skip
  if cursor.atEnd then
    throw level.unclosed
  if !isIntervalMark cursor then
    return (← single first, cursor)
  let second ← cursor.nextUnlessEnd fun _ => level.unclosed
  let (last, behind) ← atom second
  let span : Span := ⟨first.span.start, last.span.stop⟩
  let first ← intervalEnd first
  let last ← intervalEnd last
  if last.ch < first.ch then
    throw ⟨.intervalReversed, span, none⟩
  return (.interval span first last, behind)

/-! ## Whole brackets -/

/-- Brackets that have been closed. -/
structure Closed where
  /-- Where they are written. -/
  span : Span
  /-- Whether the complement is taken. -/
  negated : Bool
  /-- What is listed. -/
  body : SetTree
  deriving Inhabited

/-- Read up to the bracket that closes the outermost level.  Every step takes a character, so
that the number of characters bounds the steps. -/
def body : Nat → Level → List Level → Cursor → Except Fault (Closed × Cursor)
  | 0, level, _, _ => .error level.unclosed
  | steps + 1, level, outer, cursor => do
      let cursor := cursor.skip
      match cursor.rest with
      | [] => .error level.unclosed
      | ']' :: _ =>
          let behind := cursor.advance
          let span := level.closedSpan behind
          match outer with
          | [] => return (⟨span, level.negated, level.listed⟩, behind)
          | parent :: outer =>
              body steps (parent.add (.brackets span level.negated level.listed)) outer behind
      | '[' :: _ =>
          match namedSet? cursor with
          | some (set, behind) => body steps (level.add set) outer behind
          | none =>
              let (inner, behind) ← opening cursor
              body steps inner (level :: outer) behind
      | '&' :: '&' :: _ =>
          let behind := cursor.advanceBy 2
          body steps (level.combine .inter behind) outer behind
      | '-' :: '-' :: _ =>
          let behind := cursor.advanceBy 2
          body steps (level.combine .difference behind) outer behind
      | '~' :: '~' :: _ =>
          let behind := cursor.advanceBy 2
          body steps (level.combine .symmetricDifference behind) outer behind
      | _ =>
          let (set, behind) ← item level cursor
          body steps (level.add set) outer behind

/-- Read brackets from the opening one on. -/
def read (bracket : Cursor) : Except Fault (Closed × Cursor) := do
  let (level, cursor) ← opening bracket
  body (cursor.left + 1) level [] cursor

end PatternDraw.Regex.Brackets
