import PatternDraw.Regex.Brackets
import PatternDraw.Text.Alphabetic

/-!
# Reading search expressions

An expression is read from left to right.  For each group that is not closed yet the reader
keeps the alternatives that are complete and the parts of the one that is read; a closing
parenthesis makes the group a part of the one around it.  Flags are read here but take effect
later, except the one that lets blanks be skipped, which holds up to the end of its group.
-/

namespace PatternDraw.Regex.Reader

/-! ## Groups that are not closed yet -/

/-- How a group starts. -/
structure Opener where
  /-- The opening parenthesis. -/
  span : Span
  /-- What the group is for. -/
  kind : GroupKind
  /-- Whether blanks are skipped around the group. -/
  outerSkipsBlanks : Bool
  deriving DecidableEq, Repr, Inhabited

/-- A group that is not closed yet, or the whole expression. -/
structure Group where
  /-- How the group starts; the whole expression has no start. -/
  opener : Option Opener
  /-- Where the first alternative starts. -/
  first : Nat
  /-- The complete alternatives, the last one first. -/
  branches : List Tree
  /-- Where the alternative that is read starts. -/
  start : Nat
  /-- The parts of the alternative that is read, the last one first. -/
  parts : List Tree
  deriving Inhabited

namespace Group

/-- A group without parts, whose first alternative starts at the given offset. -/
def empty (opener : Option Opener) (start : Nat) : Group :=
  ⟨opener, start, [], start, []⟩

/-- Go on with a further part. -/
def add (group : Group) (part : Tree) : Group :=
  { group with parts := part :: group.parts }

/-- The alternative that is read, ending at the given offset. -/
def branch (group : Group) (stop : Nat) : Tree :=
  match group.parts with
  | [] => .empty ⟨group.start, stop⟩
  | [part] => part
  | parts => .sequence ⟨group.start, stop⟩ parts.reverse

/-- Go on with a further alternative behind a bar at the given offset. -/
def nextBranch (group : Group) (bar : Nat) : Group :=
  { group with
    branches := group.branch bar :: group.branches
    start := bar + 1
    parts := [] }

/-- All that has been read of a group, ending at the given offset. -/
def tree (group : Group) (stop : Nat) : Tree :=
  match group.branches with
  | [] => group.branch stop
  | branches =>
      .alternatives ⟨group.first, stop⟩ (group.branch stop :: branches).reverse

end Group

/-- What has been read so far. -/
structure State where
  /-- What is left to be read. -/
  cursor : Cursor
  /-- The number of groups that have a number. -/
  groups : Nat
  /-- The names of groups, with their places. -/
  names : List (List Char × Span)
  /-- The innermost group. -/
  group : Group
  /-- The groups around it, the innermost first. -/
  outer : List Group
  deriving Inhabited

namespace State

/-- Nothing has been read. -/
def initial (pattern : String) : State :=
  ⟨.ofText pattern, 0, [], .empty none 0, []⟩

/-- Go on behind a part. -/
def add (state : State) (part : Tree) (cursor : Cursor) : State :=
  { state with group := state.group.add part, cursor := cursor }

/-! ## Flags -/

/-- Read flags and the dash that negates those behind it, up to a colon or a parenthesis.  The
marks read before are given with their places, the last one first. -/
def flagMarks : Nat → List (Char × Span) → Cursor → Except Fault (List (Char × Span) × Cursor)
  | 0, _, cursor => .error ⟨.flagUnclosed, cursor.here, none⟩
  | count + 1, marks, cursor =>
      match cursor.rest with
      | [] => .error ⟨.flagUnclosed, cursor.here, none⟩
      | ch :: _ =>
          if ch == ':' || ch == ')' then
            match marks with
            | ('-', dash) :: _ => .error ⟨.flagNegationDangling, dash, none⟩
            | _ => .ok (marks.reverse, cursor)
          else if ! ['-', 'i', 'm', 's', 'x', 'U', 'u', 'R'].contains ch then
            .error ⟨.flagUnrecognized, cursor.onChar, none⟩
          else
            match marks.find? fun mark => mark.1 == ch with
            | some (_, earlier) =>
                let kind := if ch == '-' then .flagNegationRepeated else .flagDuplicate
                .error ⟨kind, cursor.onChar, some earlier⟩
            | none => flagMarks count ((ch, cursor.onChar) :: marks) cursor.advance

/-- Skip blanks or not, as the flags say that are read last. -/
def setSkipping (cursor : Cursor) (marks : List Char) : Cursor :=
  if !marks.contains 'x' then cursor
  else { cursor with skipsBlanks := (marks.takeWhile (· != '-')).contains 'x' }

/-! ## Groups -/

/-- Whether a character may stand in the name of a group, at its start or behind. -/
def isNameChar (atStart : Bool) (ch : Char) : Bool :=
  if atStart then ch == '_' || Text.isAlphabetic ch
  else ch == '_' || ch == '.' || ch == '[' || ch == ']' || Text.isAlphanumeric ch

/-- Read the name of a group up to its closing mark. -/
def groupName (start : Cursor) : Except Fault (List Char × Cursor) :=
  let name := start.rest.takeWhile (· != '>')
  let stop := start.advanceBy name.length
  let valid := name.takeWhile (isNameChar false)
  if name.head?.any fun ch => !isNameChar true ch then
    .error ⟨.groupNameInvalid, start.onChar, none⟩
  else if valid.length < name.length then
    .error ⟨.groupNameInvalid, (start.advanceBy valid.length).onChar, none⟩
  else if stop.atEnd then .error ⟨.groupNameUnclosed, stop.here, none⟩
  else if name.isEmpty then .error ⟨.groupNameEmpty, start.here, none⟩
  else .ok (name, stop.advance)

/-- Go on within a group that has been opened. -/
def enter (state : State) (kind : GroupKind) (cursor : Cursor) : State :=
  let opener : Opener := ⟨state.cursor.onChar, kind, state.cursor.skipsBlanks⟩
  { state with
    cursor := cursor
    group := .empty (some opener) cursor.offset
    outer := state.group :: state.outer }

/-- Go on within a group that has a number. -/
def enterNumbered (state : State) (cursor : Cursor) : State :=
  let state := { state with groups := state.groups + 1 }
  state.enter (.numbered state.groups) cursor

/-- Read the start of a group with a name. -/
def openNamed (state : State) (cursor : Cursor) : Except Fault State := do
  let (name, behind) ← groupName cursor
  let span : Span := ⟨cursor.offset, cursor.offset + name.length⟩
  match state.names.find? fun known => known.1 == name with
  | some (_, earlier) => throw ⟨.groupNameDuplicate, span, some earlier⟩
  | none => return { state with names := (name, span) :: state.names }.enterNumbered behind

/-- Read the start of a group with flags, or a setting of flags. -/
def openFlagged (state : State) (inner cursor : Cursor) : Except Fault State := do
  if cursor.atEnd then
    throw ⟨.groupUnclosed, state.cursor.onChar, none⟩
  let (marks, stop) ← flagMarks (cursor.left + 1) [] cursor
  let letters := marks.map Prod.fst
  let behind := setSkipping stop.advance letters
  if stop.isAt ':' then
    return state.enter (.flagged letters) behind
  else if letters.isEmpty then
    throw ⟨.repetitionMissing, inner.here, none⟩
  else
    return state.add (.flags (behind.since state.cursor) letters) behind

/-- Read an opening parenthesis and what belongs to it. -/
def openGroup (state : State) : Except Fault State :=
  let inner := state.cursor.next
  match ["?=", "?!", "?<=", "?<!"].findSome? inner.after? with
  | some behind => .error ⟨.lookAround, behind.since state.cursor, none⟩
  | none =>
      match ["?P<", "?<"].findSome? inner.after? with
      | some name => state.openNamed name
      | none =>
          match inner.after? "?" with
          | some flags => state.openFlagged inner flags
          | none => .ok (state.enterNumbered inner)

/-- Read a closing parenthesis. -/
def closeGroup (state : State) : Except Fault State :=
  match state.outer, state.group.opener with
  | parent :: outer, some opener =>
      let behind := state.cursor.advance
      let body := state.group.tree state.cursor.offset
      .ok { state with
        cursor := { behind with skipsBlanks := opener.outerSkipsBlanks }
        group := parent.add (.group ⟨opener.span.start, behind.offset⟩ opener.kind body)
        outer := outer }
  | _, _ => .error ⟨.groupUnopened, state.cursor.onChar, none⟩

/-! ## Repetitions -/

/-- The last expression, with the state before it.  Without one nothing can be repeated. -/
def takeLast (state : State) : Except Fault (Tree × State) :=
  match state.group.parts with
  | [] => .error ⟨.repetitionMissing, state.cursor.here, none⟩
  | .flags _ _ :: _ => .error ⟨.repetitionMissing, state.cursor.here, none⟩
  | part :: parts => .ok (part, { state with group := { state.group with parts } })

/-- Go on with a repetition whose mark ends at a place, where a question mark reverses its
preference. -/
def addRepeated (state : State) (body : Tree) (least : Nat) (most : Option Nat)
    (cursor : Cursor) : State :=
  let isReversed := cursor.isAt '?'
  let behind := if isReversed then cursor.advance else cursor
  state.add (.repeated ⟨body.span.start, behind.offset⟩ least most (!isReversed) body) behind

/-- Read a mark that repeats the last expression. -/
def repeatMarked (state : State) (least : Nat) (most : Option Nat) : Except Fault State := do
  let (body, state) ← state.takeLast
  return state.addRepeated body least most state.cursor.advance

/-- The number of different numbers of repetitions: a number has 32 bits. -/
def numberRange : Nat :=
  0x100000000

/-- Read decimal digits, of which there are at most as many as the first argument says.  Those
read before are given, the last one first. -/
def digits : Nat → List Char → Cursor → List Char × Cursor
  | 0, found, cursor => (found.reverse, cursor)
  | count + 1, found, cursor =>
      match cursor.rest with
      | ch :: _ =>
          if Text.Decimal.isDigit ch then digits count (ch :: found) cursor.next
          else (found.reverse, cursor)
      | [] => (found.reverse, cursor)

/-- The place behind blanks. -/
def behindBlanks (cursor : Cursor) : Cursor :=
  cursor.advanceBy (cursor.rest.takeWhile Text.isBlank).length

/-- Read a number of repetitions between blanks. -/
def number (cursor : Cursor) : Except Fault Nat × Cursor :=
  let start := behindBlanks cursor
  let (found, stop) := digits start.left [] start
  let value :=
    if found.isEmpty then .error ⟨.countEmpty, stop.since start, none⟩
    else if Text.Decimal.value found < numberRange then .ok (Text.Decimal.value found)
    else .error ⟨.numberInvalid, stop.since start, none⟩
  (value, (behindBlanks stop).skip)

/-- Read the bounds of a counted repetition from its opening brace up to its closing one. -/
def bounds (start : Cursor) : Except Fault (Nat × Option Nat × Cursor) := do
  let unclosed (place : Cursor) : Fault := ⟨.countUnclosed, place.since start, none⟩
  let cursor ← start.nextUnlessEnd unclosed
  let (least, cursor) := number cursor
  if cursor.atEnd then
    throw (unclosed cursor)
  if cursor.isAt ',' then
    let cursor ← cursor.nextUnlessEnd unclosed
    let least ← least
    if cursor.isAt '\x7d' then
      return (least, none, cursor)
    let (most, cursor) := number cursor
    let most ← most
    if !cursor.isAt '\x7d' then
      throw (unclosed cursor)
    return (least, some most, cursor)
  else
    let least ← least
    if !cursor.isAt '\x7d' then
      throw (unclosed cursor)
    return (least, some least, cursor)

/-- Read a repetition of the last expression with bounds in braces. -/
def repeatCounted (state : State) : Except Fault State := do
  let start := state.cursor
  let (body, state) ← state.takeLast
  let (least, most, brace) ← bounds start
  let state := state.addRepeated body least most brace.next
  if most.any (· < least) then
    throw ⟨.countInvalid, state.cursor.since start, none⟩
  return state

/-! ## The whole expression -/

/-- The tree of a character that is neither bracket nor operator. -/
def markTree (span : Span) (ch : Char) : Tree :=
  match ch with
  | '.' => .dot span
  | '^' => .atom (.anchor span .lineStart)
  | '$' => .atom (.anchor span .lineEnd)
  | ch => .atom (.letter ⟨span, ch, false⟩)

/-- Read the next part from its first character on. -/
def step (state : State) (ch : Char) : Except Fault State :=
  match ch with
  | '(' => state.openGroup
  | ')' => state.closeGroup
  | '|' =>
      .ok { state with
        group := state.group.nextBranch state.cursor.offset
        cursor := state.cursor.advance }
  | '?' => state.repeatMarked 0 (some 1)
  | '*' => state.repeatMarked 0 none
  | '+' => state.repeatMarked 1 none
  | '\x7b' => state.repeatCounted
  | '[' => do
      let (closed, behind) ← Brackets.read state.cursor
      return state.add (.brackets closed.span closed.negated closed.body) behind
  | '\\' => do
      let (atom, behind) ← Escape.read state.cursor
      return state.add (.atom atom) behind
  | ch => .ok (state.add (markTree state.cursor.onChar ch) state.cursor.advance)

/-- Read up to the end of the text.  Every step takes a character, so that the number of
characters bounds the steps. -/
def steps : Nat → State → Except Fault State
  | 0, state => .ok state
  | count + 1, state =>
      let state := { state with cursor := state.cursor.skip }
      match state.cursor.rest with
      | [] => .ok state
      | ch :: _ =>
          match state.step ch with
          | .ok state => steps count state
          | .error fault => .error fault

end State

end Reader

namespace Tree

/-- Read a written search expression whose constructs are not nested too deeply. -/
def read (pattern : String) : Except Fault Tree := do
  let initial := Reader.State.initial pattern
  let state ← initial.steps (initial.cursor.left + 1)
  match state.group.opener with
  | some opener => throw ⟨.groupUnclosed, opener.span, none⟩
  | none =>
      let tree := state.group.tree state.cursor.offset
      tree.checkNesting 0
      return tree

end Tree

end PatternDraw.Regex
