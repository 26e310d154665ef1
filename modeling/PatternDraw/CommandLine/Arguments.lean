import PatternDraw.Text.Decimal

/-!
# Command-line arguments

Arguments are read from left to right.  An option is written in full behind two dashes or as a
letter behind one; letters can be written together.  Some options take a number: attached to
the letter, behind an equals sign, or as the next argument.  Everything else is a pattern, and
so is everything behind an argument of two dashes.  The first argument that cannot be used
ends the reading, and so does a question about the program itself.
-/

namespace PatternDraw.CommandLine

/-! ## Options -/

/-- An option without a value. -/
inductive Switch where
  /-- Write one byte for each character. -/
  | raw
  /-- Read patterns as letter patterns. -/
  | letters
  /-- Show no records. -/
  | quiet
  /-- Show more records. -/
  | verbose
  /-- Tell the version of the program. -/
  | version
  /-- Tell how the program is used. -/
  | help
  deriving DecidableEq, Repr, Inhabited

/-- An option with a number as its value. -/
inductive NumberOption where
  /-- The upper bound for quantifiers that leave it open. -/
  | openUpper
  /-- The greatest upper bound that is allowed. -/
  | repeatLimit
  /-- The seed of the source. -/
  | seed
  /-- How many texts are drawn from each pattern. -/
  | count
  deriving DecidableEq, Repr, Inhabited

/-- An option. -/
inductive OptionName where
  | flag (switch : Switch)
  | number (option : NumberOption)
  deriving DecidableEq, Repr, Inhabited

namespace OptionName

/-- The option with the given letter. -/
def ofLetter? (letter : Char) : Option OptionName :=
  match letter with
  | 'm' => some (number .openUpper)
  | 's' => some (number .seed)
  | 'n' => some (number .count)
  | 'r' => some (flag .raw)
  | 'l' => some (flag .letters)
  | 'q' => some (flag .quiet)
  | 'v' => some (flag .verbose)
  | 'V' => some (flag .version)
  | 'h' => some (flag .help)
  | _ => none

/-- The option that is written in full. -/
def ofWord? (word : String) : Option OptionName :=
  match word with
  | "max" => some (number .openUpper)
  | "repeat-limit" => some (number .repeatLimit)
  | "seed" => some (number .seed)
  | "count" => some (number .count)
  | "raw" => some (flag .raw)
  | "legacy" => some (flag .letters)
  | "quiet" => some (flag .quiet)
  | "verbose" => some (flag .verbose)
  | "version" => some (flag .version)
  | "help" => some (flag .help)
  | _ => none

end OptionName

namespace NumberOption

/-- The option as it is written in full. -/
def word : NumberOption → String
  | openUpper => "--max"
  | repeatLimit => "--repeat-limit"
  | seed => "--seed"
  | count => "--count"

end NumberOption

/-! ## Results -/

/-- Why arguments cannot be used. -/
inductive UsageFault where
  /-- There is no such option. -/
  | unknownOption (text : String)
  /-- An option is given twice. -/
  | repeatedOption (text : String)
  /-- An option has no value. -/
  | missingValue (option : NumberOption)
  /-- The value of an option is not a number of 64 bits. -/
  | invalidValue (name value : String)
  /-- An option that takes no value has one. -/
  | unexpectedValue (text : String)
  /-- There is no pattern. -/
  | missingPattern
  /-- Records are asked for and not wanted. -/
  | quietAndVerbose
  deriving DecidableEq, Repr, Inhabited

namespace UsageFault

/-- The fault as a line of text. -/
def message : UsageFault → String
  | unknownOption text => "unexpected argument '" ++ text ++ "' found"
  | repeatedOption text => "the argument '" ++ text ++ "' cannot be used multiple times"
  | missingValue option => "a value is required for '" ++ option.word ++ "' but none was supplied"
  | invalidValue name value => "invalid value '" ++ value ++ "' for '" ++ name ++ "'"
  | unexpectedValue text => "unexpected value in '" ++ text ++ "'"
  | missingPattern => "no pattern was given"
  | quietAndVerbose => "the argument '--quiet' cannot be used with '--verbose'"

end UsageFault

/-- Why the program ends without drawing texts. -/
inductive EarlyExit where
  /-- The version of the program is asked for. -/
  | version
  /-- The use of the program is asked for. -/
  | help
  /-- The arguments cannot be used. -/
  | usage (fault : UsageFault)
  deriving DecidableEq, Repr, Inhabited

/-- What the arguments say. -/
structure Arguments where
  /-- The patterns in order. -/
  patterns : List String := []
  /-- The upper bound for quantifiers that leave it open. -/
  openUpper : Option Nat := none
  /-- The greatest upper bound that is allowed. -/
  repeatLimit : Option Nat := none
  /-- The seed of the source. -/
  seed : Option Nat := none
  /-- How many texts are drawn from each pattern. -/
  count : Option Nat := none
  /-- Whether one byte is written for each character. -/
  raw : Bool := false
  /-- Whether patterns are letter patterns. -/
  letters : Bool := false
  /-- Whether no records are shown. -/
  quiet : Bool := false
  /-- How often more records were asked for. -/
  verbosity : Nat := 0
  deriving DecidableEq, Repr, Inhabited

namespace Arguments

/-! ## Options one by one -/

/-- Add a pattern. -/
def addPattern (arguments : Arguments) (pattern : String) : Arguments :=
  { arguments with patterns := arguments.patterns ++ [pattern] }

/-- The number given for an option. -/
def number? (arguments : Arguments) : NumberOption → Option Nat
  | .openUpper => arguments.openUpper
  | .repeatLimit => arguments.repeatLimit
  | .seed => arguments.seed
  | .count => arguments.count

/-- The arguments with a number for an option. -/
def withNumber (arguments : Arguments) (option : NumberOption) (number : Nat) : Arguments :=
  match option with
  | .openUpper => { arguments with openUpper := some number }
  | .repeatLimit => { arguments with repeatLimit := some number }
  | .seed => { arguments with seed := some number }
  | .count => { arguments with count := some number }

/-- Use the value of an option. -/
def setNumber (arguments : Arguments) (option : NumberOption) (value : String) :
    Except EarlyExit Arguments :=
  if (arguments.number? option).isSome then
    .error (.usage (.repeatedOption option.word))
  else
    match Text.Decimal.readSigned? value.toList with
    | some number => .ok (arguments.withNumber option number)
    | none => .error (.usage (.invalidValue option.word value))

/-- Turn a switch on, which most switches allow only once. -/
def turnOn (arguments : Arguments) : Switch → Except EarlyExit Arguments
  | .raw =>
      if arguments.raw then .error (.usage (.repeatedOption "--raw"))
      else .ok { arguments with raw := true }
  | .letters =>
      if arguments.letters then .error (.usage (.repeatedOption "--legacy"))
      else .ok { arguments with letters := true }
  | .quiet =>
      if arguments.quiet then .error (.usage (.repeatedOption "--quiet"))
      else .ok { arguments with quiet := true }
  | .verbose => .ok { arguments with verbosity := arguments.verbosity + 1 }
  | .version => .error .version
  | .help => .error .help

/-! ## Argument by argument -/

/-- What has been read, and what the next argument is taken for. -/
structure Reader where
  /-- What the arguments so far say. -/
  arguments : Arguments := {}
  /-- The option whose value the next argument has to be. -/
  awaiting : Option NumberOption := none
  /-- Whether only patterns are left. -/
  optionsEnded : Bool := false
  deriving DecidableEq, Repr, Inhabited

/-- Read letters that are written together behind one dash.  An option with a value takes the
rest of the argument, or else the next argument. -/
def readLetters (reader : Reader) : List Char → Except EarlyExit Reader
  | [] => .ok reader
  | letter :: rest =>
      match OptionName.ofLetter? letter with
      | none => .error (.usage (.unknownOption ("-" ++ String.singleton letter)))
      | some (.flag switch) =>
          match reader.arguments.turnOn switch with
          | .ok arguments => readLetters { reader with arguments := arguments } rest
          | .error stop => .error stop
      | some (.number option) =>
          match rest with
          | [] => .ok { reader with awaiting := some option }
          | first :: others =>
              let value := if first = '=' then others else first :: others
              (reader.arguments.setNumber option (String.ofList value)).map fun arguments =>
                { reader with arguments := arguments }

/-- Read an option that is written in full, with what stands behind an equals sign. -/
def readWord (reader : Reader) (word : String) (value : Option String) :
    Except EarlyExit Reader :=
  match OptionName.ofWord? word, value with
  | none, _ => .error (.usage (.unknownOption ("--" ++ word)))
  | some (.flag _), some _ => .error (.usage (.unexpectedValue ("--" ++ word)))
  | some (.flag switch), none =>
      (reader.arguments.turnOn switch).map fun arguments =>
        { reader with arguments := arguments }
  | some (.number option), some value =>
      (reader.arguments.setNumber option value).map fun arguments =>
        { reader with arguments := arguments }
  | some (.number option), none => .ok { reader with awaiting := some option }

/-- Split the text of a full option at its first equals sign. -/
def splitWord (text : List Char) : String × Option String :=
  match text.dropWhile (· != '=') with
  | [] => (String.ofList text, none)
  | _ :: value => (String.ofList (text.takeWhile (· != '=')), some (String.ofList value))

/-- Read an argument that is not the value of an option. -/
def readFree (reader : Reader) (argument : String) : Except EarlyExit Reader :=
  if reader.optionsEnded then
    .ok { reader with arguments := reader.arguments.addPattern argument }
  else
    match argument.toList with
    | ['-', '-'] => .ok { reader with optionsEnded := true }
    | '-' :: '-' :: text =>
        let (word, value) := splitWord text
        readWord reader word value
    | '-' :: letter :: rest => readLetters reader (letter :: rest)
    | _ => .ok { reader with arguments := reader.arguments.addPattern argument }

/-- Read one argument. -/
def readOne (reader : Reader) (argument : String) : Except EarlyExit Reader :=
  match reader.awaiting with
  | none => readFree reader argument
  | some option =>
      if argument.toList.head? = some '-' then .error (.usage (.missingValue option))
      else
        (reader.arguments.setNumber option argument).map fun arguments =>
          { reader with arguments := arguments, awaiting := none }

/-- The result of reading, unless a value is still awaited. -/
def complete (reader : Reader) : Except EarlyExit Arguments :=
  match reader.awaiting with
  | some option => .error (.usage (.missingValue option))
  | none => .ok reader.arguments

/-- Read the arguments of a program. -/
def read (arguments : List String) : Except EarlyExit Arguments := do
  complete (← arguments.foldlM readOne {})

end Arguments

end PatternDraw.CommandLine
