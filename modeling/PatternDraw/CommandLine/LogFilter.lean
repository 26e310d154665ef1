import PatternDraw.Record
import PatternDraw.Regex.Compiled
import PatternDraw.Text.Blank

/-!
# Which records are shown

A filter has directives and may have a search expression.  Each directive sets a threshold for
the targets that start with a given text; the longest of these texts decides.  Of the records
that are important enough those are shown whose message matches the expression.  Shown records
are written one to a line, with level and target in brackets.

Filters are written as directives separated by commas, then, if there is an expression, a slash
and the expression.  What cannot be read is left out and reported.
-/

namespace PatternDraw.CommandLine

/-- The least important level that is shown, if any is. -/
abbrev Threshold := Option Level

/-- The threshold for some targets. -/
structure Directive where
  /-- The start of the targets concerned.  A directive for all targets has none; it yields to
  one for the targets that start with the empty text. -/
  target : Option String
  /-- The least important level that is shown. -/
  threshold : Threshold
  deriving DecidableEq, Repr, Inhabited

/-- A rule on the records that are shown. -/
structure LogFilter where
  /-- The thresholds, with different targets. -/
  directives : List Directive
  /-- What occurs in the messages that are shown. -/
  sought : Option Regex
  deriving Inhabited

/-- Why a part of a written filter is left out. -/
inductive LogFault where
  /-- The text has more than one slash. -/
  | tooManySlashes (text : String)
  /-- A directive, or what it sets, is not one. -/
  | unreadable (text : String)
  /-- The search expression is of no use. -/
  | unsearchable (pattern : String) (refusal : Regex.Refusal)
  deriving DecidableEq, Repr, Inhabited

namespace LogFault

/-- The fault in words. -/
def message : LogFault → String
  | tooManySlashes text => "invalid logging spec '" ++ text ++ "' (too many '/'s)"
  | unreadable text => "invalid logging spec '" ++ text ++ "'"
  | unsearchable pattern refusal => "invalid regex filter - " ++ refusal.message pattern

/-- The line that reports a fault. -/
def line (fault : LogFault) : String :=
  "warning: " ++ fault.message ++ ", ignoring it\n"

end LogFault

namespace Directive

/-- The threshold with the given name, in letters of either case. -/
def threshold? (name : String) : Option Threshold :=
  match name.toLower with
  | "off" => some none
  | "error" => some (some .error)
  | "warn" => some (some .warn)
  | "info" => some (some .info)
  | "debug" => some (some .debug)
  | "trace" => some (some .trace)
  | _ => none

/-- Read a directive: a threshold for everything, a target that is shown in full, or a target
and its threshold with an equals sign between them. -/
def read (text : String) : Except LogFault Directive :=
  match text.splitOn "=" with
  | [name] =>
      match threshold? name with
      | some threshold => .ok ⟨none, threshold⟩
      | none => .ok ⟨some name, some .trace⟩
  | [target, name] =>
      let name := Text.trimBlanks name
      if name.isEmpty then .ok ⟨some target, some .trace⟩
      else
        match threshold? name with
        | some threshold => .ok ⟨some target, threshold⟩
        | none => .error (.unreadable name)
  | _ => .error (.unreadable text)

/-- Read directives separated by commas; blanks around them and empty ones do not count. -/
def readAll (text : String) : List (Except LogFault Directive) :=
  (((text.splitOn ",").map Text.trimBlanks).filter fun part => !part.isEmpty).map read

/-- Whether a directive concerns a target. -/
def concerns (directive : Directive) (target : String) : Bool :=
  directive.target.all fun start => start.isPrefixOf target

/-- How much of a target a directive names. -/
def length (directive : Directive) : Nat :=
  directive.target.elim 0 String.length

/-- Whether a level is important enough to be shown. -/
def admits (directive : Directive) (level : Level) : Bool :=
  directive.threshold.any fun least => decide (level.rank ≤ least.rank)

/-- Prefer a directive to the one chosen so far if it concerns the target and is no shorter. -/
def prefer (target : String) (chosen : Option Directive) (next : Directive) : Option Directive :=
  if next.concerns target then
    match chosen with
    | some present => if present.length ≤ next.length then some next else some present
    | none => some next
  else chosen

end Directive

namespace LogFilter

/-! ## Making filters -/

/-- The filter that sets one threshold for everything. -/
def ofThreshold (threshold : Threshold) : LogFilter :=
  ⟨[⟨none, threshold⟩], none⟩

/-- Let a directive take the place of the one with the same target, or else the last place. -/
def insert (filter : LogFilter) (directive : Directive) : LogFilter :=
  let isSame (known : Directive) : Bool := decide (known.target = directive.target)
  if filter.directives.any isSame then
    { filter with
      directives := filter.directives.map fun known =>
        if isSame known then directive else known }
  else { filter with directives := filter.directives ++ [directive] }

/-- Insert the directives that could be read; the faults of the others are listed. -/
def insertAll (filter : LogFilter) :
    List (Except LogFault Directive) → LogFilter × List LogFault
  | [] => (filter, [])
  | .ok directive :: rest => (filter.insert directive).insertAll rest
  | .error fault :: rest =>
      let (filter, faults) := filter.insertAll rest
      (filter, fault :: faults)

/-- Show only what matches a search expression, if it is one. -/
def search (filter : LogFilter) (pattern : String) : LogFilter × List LogFault :=
  match Regex.compile pattern with
  | .ok regex => ({ filter with sought := some regex }, [])
  | .error refusal => (filter, [.unsearchable pattern refusal])

/-- Change a filter as a text says; the faults of what is left out are listed in order. -/
def override (filter : LogFilter) (text : String) : LogFilter × List LogFault :=
  match text.splitOn "/" with
  | [directives] => filter.insertAll (Directive.readAll directives)
  | [directives, pattern] =>
      let (filter, faults) := filter.insertAll (Directive.readAll directives)
      let (filter, more) := filter.search pattern
      (filter, faults ++ more)
  | _ => (filter, [.tooManySlashes text])

/-! ## Applying filters -/

/-- Whether records of a target and a level are important enough to be shown. -/
def admits (filter : LogFilter) (target : String) (level : Level) : Bool :=
  (filter.directives.foldl (Directive.prefer target) none).any fun directive =>
    directive.admits level

/-- Whether a record is shown. -/
def shows (filter : LogFilter) (record : Record) : Bool :=
  filter.admits record.target record.level &&
    filter.sought.all fun regex => regex.occursIn record.message

/-! ## Writing records -/

/-- The name of a level, in five columns. -/
def levelColumn (level : Level) : String :=
  String.ofList (level.name.toList.rightpad 5 ' ')

/-- The sequence that makes a terminal write in the colour of a level. -/
def colourOf (level : Level) : String :=
  match level with
  | .error => "\x1b[1m\x1b[31m"
  | .warn => "\x1b[33m"
  | .info => "\x1b[32m"
  | .debug => "\x1b[34m"
  | .trace => "\x1b[36m"

/-- A text in a colour, if colours are used. -/
def tinted (colours : Bool) (colour text : String) : String :=
  if colours then colour ++ text ++ "\x1b[0m" else text

/-- The line that shows a record.  Colours mark the level, and the brackets are grey. -/
def line (colours : Bool) (record : Record) : String :=
  tinted colours "\x1b[90m" "[" ++
    tinted colours (colourOf record.level) (levelColumn record.level) ++ " " ++
    record.target ++ tinted colours "\x1b[90m" "]" ++ " " ++ record.message ++ "\n"

/-- The lines of the records that are shown. -/
def lines (filter : LogFilter) (colours : Bool) (records : List Record) : String :=
  String.join ((records.filter filter.shows).map (line colours))

end LogFilter

end PatternDraw.CommandLine
