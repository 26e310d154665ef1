import PatternDraw.Regex.Expression

/-!
# What written search expressions mean

Flags decide what a construct means, and a setting of flags holds up to the end of the group
that it stands in.  Without further notice characters are those of all scripts; then neither
the case of letters can be disregarded, nor is there a set with a letter or a name of its own.
With the flag `u` cleared, sets are sets of bytes, and no set may hold a byte that is not a
character by itself.
-/

namespace PatternDraw.Regex

/-- What the flags say. -/
structure Flags where
  /-- Whether the case of letters is disregarded. -/
  anyCase : Bool := false
  /-- Whether lines within the text have starts and ends. -/
  multiLine : Bool := false
  /-- Whether the dot matches the ends of lines. -/
  dotAll : Bool := false
  /-- Whether repetitions prefer few to many. -/
  swapsEager : Bool := false
  /-- Whether lines may end with a carriage return. -/
  anyLineEnd : Bool := false
  /-- Whether characters are those of all scripts. -/
  allScripts : Bool := true
  deriving DecidableEq, Repr, Inhabited

namespace Flags

/-- Set or clear a flag. -/
def set (value : Bool) (flags : Flags) (mark : Char) : Flags :=
  match mark with
  | 'i' => { flags with anyCase := value }
  | 'm' => { flags with multiLine := value }
  | 's' => { flags with dotAll := value }
  | 'U' => { flags with swapsEager := value }
  | 'R' => { flags with anyLineEnd := value }
  | 'u' => { flags with allScripts := value }
  | _ => flags

/-- Set the flags before the dash and clear those behind it. -/
def setAll (flags : Flags) (marks : List Char) : Flags :=
  let flags := (marks.takeWhile (· != '-')).foldl (set true) flags
  (marks.dropWhile (· != '-')).foldl (set false) flags

/-- The universe of sets. -/
def world (flags : Flags) : Universe :=
  if flags.allScripts then .chars else .bytes

end Flags

/-! ## Sets -/

/-- The fault of a set with bytes that are no characters. -/
def refuseStrayBytes (flags : Flags) (span : Span) (set : CharSet) : Except Fault CharSet :=
  if flags.allScripts || set.isAscii then .ok set else .error ⟨.strayBytes, span, none⟩

/-- Disregard the case of letters if the flags say so. -/
def foldCase (flags : Flags) (span : Span) (set : CharSet) : Except Fault CharSet :=
  if !flags.anyCase then .ok set
  else if !flags.allScripts then .ok set.foldCase
  else if set.caseClosed then .ok set
  else .error ⟨.caseUnavailable, span, none⟩

/-- Disregard the case of letters if the flags say so, then take the complement if asked. -/
def foldAndNegate (flags : Flags) (span : Span) (negated : Bool) (set : CharSet) :
    Except Fault CharSet := do
  let set ← foldCase flags span set
  refuseStrayBytes flags span (if negated then set.complement flags.world else set)

/-- The intervals of a set with a letter of its own, in ASCII. -/
def Shorthand.intervals : Shorthand → List Interval
  | digit => [(0x30, 0x39)]
  | space => [(0x09, 0x0d), (0x20, 0x20)]
  | word => [(0x30, 0x39), (0x41, 0x5a), (0x5f, 0x5f), (0x61, 0x7a)]

/-- The set with a letter of its own. -/
def Shorthand.resolve (flags : Flags) (span : Span) (negated : Bool) (shorthand : Shorthand) :
    Except Fault CharSet :=
  if flags.allScripts then .error ⟨.shorthandNotFound, span, none⟩
  else
    let set := CharSet.ofIntervals shorthand.intervals
    refuseStrayBytes flags span (if negated then set.complement flags.world else set)

/-- The name of a property without marks and a leading `is`, in small letters of ASCII. -/
def plainName (name : List Char) : List Char :=
  let inner :=
    match name with
    | first :: second :: rest =>
        if first.toLower == 'i' && second.toLower == 's' then rest else name
    | name => name
  (inner.filter fun ch => ch.toNat < 0x80 && ch != ' ' && ch != '_' && ch != '-').map Char.toLower

/-- The fault of a property.  No property is known; three names are taken for values that a
property may have. -/
def propertyFault (flags : Flags) (span : Span) (name : List Char) : Fault :=
  if !flags.allScripts then ⟨.wideNotAllowed, span, none⟩
  else if ["cf", "sc", "lc"].contains (String.ofList (plainName name)) then
    ⟨.propertyValueNotFound, span, none⟩
  else ⟨.propertyNotFound, span, none⟩

/-- The code point of a listed character. -/
def Letter.code (flags : Flags) (letter : Letter) : Except Fault Nat :=
  let code := letter.ch.toNat
  if flags.allScripts || code < 0x80 then .ok code
  else if letter.asByte then .error ⟨.strayBytes, letter.span, none⟩
  else .error ⟨.wideNotAllowed, letter.span, none⟩

/-- Listed sets that are gathered, in any order. -/
structure Gathering where
  /-- The intervals gathered so far. -/
  intervals : List Interval
  /-- Whether what was gathered is closed under the case of letters for certain. -/
  caseClosed : Bool
  deriving DecidableEq, Repr, Inhabited

namespace Gathering

/-- What was gathered. -/
def set (gathering : Gathering) : CharSet :=
  ⟨Interval.normalize gathering.intervals, gathering.caseClosed⟩

/-- Gather an interval. -/
def push (gathering : Gathering) (interval : Interval) : Gathering :=
  ⟨interval :: gathering.intervals, false⟩

/-- Gather the members of a set.  What is not closed stays so and need not be in order. -/
def add (gathering : Gathering) (other : CharSet) : Gathering :=
  if gathering.caseClosed then
    let union := gathering.set.union other
    ⟨union.intervals, union.caseClosed⟩
  else ⟨other.intervals ++ gathering.intervals, false⟩

end Gathering

/-- Combine two sets. -/
def Combination.apply (world : Universe) (combination : Combination) (left right : CharSet) :
    CharSet :=
  match combination with
  | inter => left.inter right
  | difference => left.difference world right
  | symmetricDifference => left.symmetricDifference world right

mutual

/-- Gather a listed set. -/
def SetTree.gather (flags : Flags) (gathering : Gathering) : SetTree → Except Fault Gathering
  | .empty _ => .ok gathering
  | .atom (.letter letter) =>
      match letter.code flags with
      | .ok code => .ok (gathering.push (code, code))
      | .error fault => .error fault
  | .atom (.anchor span _) => .error ⟨.bracketEscapeInvalid, span, none⟩
  | .atom (.shorthand span shorthand negated) =>
      match shorthand.resolve flags span negated with
      | .ok set => .ok (gathering.add set)
      | .error fault => .error fault
  | .atom (.property span name) => .error (propertyFault flags span name)
  | .interval _ first last =>
      match first.code flags with
      | .ok first =>
          match last.code flags with
          | .ok last => .ok (gathering.push (first, last))
          | .error fault => .error fault
      | .error fault => .error fault
  | .named span intervals negated =>
      match foldAndNegate flags span negated (CharSet.ofIntervals intervals) with
      | .ok set => .ok (gathering.add set)
      | .error fault => .error fault
  | .brackets span negated body =>
      match body.gather flags ⟨[], true⟩ with
      | .ok inner =>
          match foldAndNegate flags span negated inner.set with
          | .ok set => .ok (gathering.add set)
          | .error fault => .error fault
      | .error fault => .error fault
  | .union _ items => SetTree.gatherAll flags gathering items
  | .combined _ combination left right =>
      match left.gather flags ⟨[], true⟩ with
      | .ok inner =>
          match right.gather flags ⟨[], true⟩ with
          | .ok other =>
              match foldCase flags right.span other.set with
              | .ok other =>
                  match foldCase flags left.span inner.set with
                  | .ok inner => .ok (gathering.add (combination.apply flags.world inner other))
                  | .error fault => .error fault
              | .error fault => .error fault
          | .error fault => .error fault
      | .error fault => .error fault

/-- Gather listed sets from left to right. -/
def SetTree.gatherAll (flags : Flags) (gathering : Gathering) :
    List SetTree → Except Fault Gathering
  | [] => .ok gathering
  | item :: rest =>
      match item.gather flags gathering with
      | .ok gathering => SetTree.gatherAll flags gathering rest
      | .error fault => .error fault

end

/-! ## Single parts -/

/-- What a written character means. -/
def Letter.resolve (flags : Flags) (letter : Letter) : Except Fault Expression :=
  let code := letter.ch.toNat
  if flags.allScripts then
    if flags.anyCase then .error ⟨.caseUnavailable, letter.span, none⟩
    else .ok (.literal [letter.ch])
  else if letter.asByte && 0x80 ≤ code then .error ⟨.strayBytes, letter.span, none⟩
  else if flags.anyCase && letter.ch.isAlpha then
    .ok (.ofSet .bytes (CharSet.foldCase ⟨[(code, code)], false⟩))
  else .ok (.literal [letter.ch])

/-- The condition that an anchor stands for. -/
def Anchor.resolve (flags : Flags) : Anchor → Look
  | textStart => .textStart
  | textEnd => .textEnd
  | lineStart =>
      if !flags.multiLine then .textStart
      else if flags.anyLineEnd then .anyLineStart else .lineStart
  | lineEnd =>
      if !flags.multiLine then .textEnd
      else if flags.anyLineEnd then .anyLineEnd else .lineEnd
  | words condition => .words condition flags.allScripts

/-- What an atom means. -/
def Atom.resolve (flags : Flags) : Atom → Except Fault Expression
  | letter written => written.resolve flags
  | anchor _ found => .ok (.look (found.resolve flags))
  | shorthand span found negated => do
      return .ofSet flags.world (← found.resolve flags span negated)
  | property span name => .error (propertyFault flags span name)

/-- The characters that the dot matches. -/
def dotIntervals (flags : Flags) : List Interval :=
  if flags.dotAll then [(0, 0x10ffff)]
  else if flags.anyLineEnd then [(0, 0x09), (0x0b, 0x0c), (0x0e, 0x10ffff)]
  else [(0, 0x09), (0x0b, 0x10ffff)]

/-! ## Whole expressions -/

mutual

/-- What a written expression means, and the flags behind it. -/
def Tree.resolve (flags : Flags) : Tree → Except Fault (Expression × Flags)
  | .empty _ => .ok (.empty, flags)
  | .flags _ marks => .ok (.empty, flags.setAll marks)
  | .atom found =>
      match found.resolve flags with
      | .ok expression => .ok (expression, flags)
      | .error fault => .error fault
  | .dot span =>
      if flags.allScripts then .ok (.oneOf .chars (dotIntervals flags), flags)
      else .error ⟨.strayBytes, span, none⟩
  | .brackets span negated body =>
      match body.gather flags ⟨[], true⟩ with
      | .ok inner =>
          match foldAndNegate flags span negated inner.set with
          | .ok set => .ok (.ofSet flags.world set, flags)
          | .error fault => .error fault
      | .error fault => .error fault
  | .repeated _ least most eager body =>
      match body.resolve flags with
      | .ok (expression, flags) =>
          .ok (.repetition least most (eager != flags.swapsEager) expression, flags)
      | .error fault => .error fault
  | .group _ (.numbered number) body =>
      match body.resolve flags with
      | .ok (expression, _) => .ok (.numbered number expression, flags)
      | .error fault => .error fault
  | .group _ (.flagged marks) body =>
      match body.resolve (flags.setAll marks) with
      | .ok (expression, _) => .ok (expression, flags)
      | .error fault => .error fault
  | .alternatives _ branches =>
      match Tree.resolveAll flags [] branches with
      | .ok (expressions, flags) => .ok (.oneOfSeveral expressions, flags)
      | .error fault => .error fault
  | .sequence _ parts =>
      match Tree.resolveAll flags [] parts with
      | .ok (expressions, flags) => .ok (.inSequence expressions, flags)
      | .error fault => .error fault

/-- What written expressions mean, from left to right, and the flags behind them.  What the
expressions before mean is given, the last one first. -/
def Tree.resolveAll (flags : Flags) (done : List Expression) :
    List Tree → Except Fault (List Expression × Flags)
  | [] => .ok (done.reverse, flags)
  | part :: rest =>
      match part.resolve flags with
      | .ok (expression, flags) => Tree.resolveAll flags (expression :: done) rest
      | .error fault => .error fault

end

end PatternDraw.Regex
