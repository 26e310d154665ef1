import PatternDraw.CommandLine.Arguments
import PatternDraw.CommandLine.LogFilter
import PatternDraw.Pattern.Compilation

/-!
# Settings of a run

What the arguments leave open is taken from the environment, and what the environment leaves
open has a usual value.  A variable is looked at only if its argument is missing; then a value
that is not a number makes the run impossible, an empty value included.  The filter for records
is different: the environment overrides the arguments, and what cannot be read is left out.
-/

namespace PatternDraw.CommandLine

/-- The variables that the program looks at, and the memory in which it runs. -/
structure Environment where
  /-- The upper bound for quantifiers that leave it open. -/
  openUpper : Option String := none
  /-- The greatest upper bound that is allowed. -/
  repeatLimit : Option String := none
  /-- The seed of the source. -/
  seed : Option String := none
  /-- The filter for the records that are shown. -/
  log : Option String := none
  /-- When records are shown in colours. -/
  logStyle : Option String := none
  /-- A wish for records without colours, if it is not empty. -/
  noColour : Option String := none
  /-- A wish for records in colours, if it is not empty. -/
  forcedColour : Option String := none
  /-- The memory that has to hold the templates. -/
  [memory : Memory]
  deriving DecidableEq, Repr, Inhabited

namespace Environment

/-- The environment whose variables are looked up by name. -/
def ofLookup {m : Type → Type} [Monad m] (lookup : String → m (Option String)) :
    m Environment := do
  return {
    openUpper := ← lookup "STRRAND_MAX"
    repeatLimit := ← lookup "STRRAND_REPEAT_LIMIT"
    seed := ← lookup "STRRAND_SEED"
    log := ← lookup "RUST_LOG"
    logStyle := ← lookup "RUST_LOG_STYLE"
    noColour := ← lookup "NO_COLOR"
    forcedColour := ← lookup "CLICOLOR_FORCE" }

/-- Whether records are shown in colours.  If the style does not decide it, they are shown so on
an express wish only, and a wish for no colours comes first. -/
def wantsColours (environment : Environment) : Bool :=
  match environment.logStyle with
  | some "always" => true
  | some "never" => false
  | _ =>
      !environment.noColour.any (!·.isEmpty) && environment.forcedColour.any (!·.isEmpty)

end Environment

/-- Everything that a run depends on but its source. -/
structure Settings where
  /-- The patterns in order. -/
  patterns : List String
  /-- How many texts are drawn from each pattern. -/
  count : Nat
  /-- The limits on quantifiers. -/
  limits : Limits
  /-- The seed of the source. -/
  seed : Option Nat
  /-- Whether patterns are letter patterns. -/
  letters : Bool
  /-- Whether one byte is written for each character. -/
  raw : Bool
  /-- Which records are shown. -/
  filter : LogFilter
  /-- What could not be read of the filter. -/
  filterFaults : List LogFault
  /-- Whether records are shown in colours. -/
  colours : Bool
  deriving Inhabited

namespace Settings

/-- The number given by an argument, or else by a variable. -/
def numberFrom (argument : Option Nat) (option : NumberOption) (variableText : Option String) :
    Except EarlyExit (Option Nat) :=
  match argument, variableText with
  | some number, _ => .ok (some number)
  | none, none => .ok none
  | none, some value =>
      match Text.Decimal.readSigned? value.toList with
      | some number => .ok (some number)
      | none => .error (.usage (.invalidValue option.word value))

/-- The records that the switches ask for. -/
def usualThreshold (arguments : Arguments) : Threshold :=
  if arguments.quiet then none
  else
    match arguments.verbosity with
    | 0 => some .warn
    | 1 => some .debug
    | _ => some .trace

/-- The filter of a run, and what could not be read of it: the switches are overridden by the
environment. -/
def filterOf (arguments : Arguments) (environment : Environment) : LogFilter × List LogFault :=
  (LogFilter.ofThreshold (usualThreshold arguments)).override (environment.log.getD "")

/-- The settings that arguments and environment make together. -/
def resolve (arguments : Arguments) (environment : Environment) :
    Except EarlyExit Settings := do
  let openUpper ← numberFrom arguments.openUpper .openUpper environment.openUpper
  let repeatLimit ← numberFrom arguments.repeatLimit .repeatLimit environment.repeatLimit
  let seed ← numberFrom arguments.seed .seed environment.seed
  if arguments.patterns.isEmpty then
    throw (.usage .missingPattern)
  if arguments.quiet && arguments.verbosity != 0 then
    throw (.usage .quietAndVerbose)
  let usual : Limits := {}
  let (filter, filterFaults) := filterOf arguments environment
  return {
    patterns := arguments.patterns
    count := arguments.count.getD 1
    limits :=
      { openUpper := openUpper.getD usual.openUpper
        repeatLimit := repeatLimit.getD usual.repeatLimit
        memory := environment.memory }
    seed := seed
    letters := arguments.letters
    raw := arguments.raw
    filter := filter
    filterFaults := filterFaults
    colours := environment.wantsColours }

end Settings

end PatternDraw.CommandLine
