import PatternDraw.CommandLine.Settings
import PatternDraw.Entropy.ChaCha
import PatternDraw.Composer
import PatternDraw.Text.Latin1

/-!
# A run of the program

One composer and one source serve the whole run.  The patterns are taken in order, and each
is drawn from as often as the settings say; every text is written on a line of its own as soon
as it is drawn.  The first text that cannot be drawn or written ends the run, and what was
written before stays.
-/

namespace PatternDraw.CommandLine

/-! ## Failures -/

/-- Why a run ends before its last text. -/
inductive Failure where
  /-- No text can be drawn from a pattern. -/
  | generation (pattern : String) (fault : Fault)
  /-- A text has characters that are not bytes. -/
  | wideOutput (pattern : String)
  deriving DecidableEq, Repr, Inhabited

namespace Failure

/-- Move every line of a text but the first four columns to the right. -/
def indented (text : String) : String :=
  String.ofList (text.toList.flatMap fun ch =>
    if ch = '\n' then ['\n', ' ', ' ', ' ', ' '] else [ch])

/-- The failure as lines of text. -/
def message : Failure → String
  | generation pattern fault =>
      "Error: Failed to generate from pattern " ++ Text.quoted pattern ++
        "\n\nCaused by:\n    " ++ indented fault.message ++ "\n"
  | wideOutput pattern =>
      "Error: Output of " ++ Text.quoted pattern ++ " has characters above U+00FF\n"

end Failure

/-! ## Progress -/

/-- What has been written, what has been done, and what is left of the source. -/
structure Progress (σ : Type) where
  /-- The lines written so far. -/
  output : ByteArray
  /-- What was done so far, in order. -/
  records : Array Record
  /-- What is left of the source. -/
  source : σ

namespace Settings

/-- The composer of a run. -/
def composer (settings : Settings) : Composer :=
  .withLimits settings.limits

/-- The bytes in which a text is written, if it can be written. -/
def encode? (settings : Settings) (text : String) : Option ByteArray :=
  if settings.raw then Text.Latin1.encode? text else some text.toUTF8

variable {σ : Type} [EntropySource σ]

/-- Draw a text from a pattern of the kind that the settings name. -/
def drawText (settings : Settings) (pattern : String) (source : σ) : Run σ String :=
  if settings.letters then settings.composer.drawLetters pattern source
  else settings.composer.drawPattern pattern source

/-- Draw a text and write it on a line. -/
def writeOne (settings : Settings) (pattern : String) (progress : Progress σ) :
    Progress σ × Option Failure :=
  let run := settings.drawText pattern progress.source
  let records := progress.records ++ run.records
  match run.result with
  | .error fault => (⟨progress.output, records, run.source⟩, some (.generation pattern fault))
  | .ok text =>
      match settings.encode? text with
      | none => (⟨progress.output, records, run.source⟩, some (.wideOutput pattern))
      | some line => (⟨(progress.output ++ line).push 0x0a, records, run.source⟩, none)

/-- Write a number of texts drawn from one pattern. -/
def writeMany (settings : Settings) (pattern : String) :
    Nat → Progress σ → Progress σ × Option Failure
  | 0, progress => (progress, none)
  | count + 1, progress =>
      match settings.writeOne pattern progress with
      | (progress, none) => writeMany settings pattern count progress
      | (progress, some failure) => (progress, some failure)

/-- Write the texts of all patterns. -/
def writeAll (settings : Settings) :
    List String → Progress σ → Progress σ × Option Failure
  | [], progress => (progress, none)
  | pattern :: rest, progress =>
      match settings.writeMany pattern settings.count progress with
      | (progress, none) => writeAll settings rest progress
      | (progress, some failure) => (progress, some failure)

end Settings

/-! ## The whole program -/

/-- What the program leaves behind. -/
structure Outcome where
  /-- The exit code. -/
  code : UInt8
  /-- The bytes written to standard output. -/
  output : ByteArray
  /-- The text written to standard error. -/
  errors : String
  deriving Inhabited

namespace Outcome

/-- The name and the version of the program. -/
def versionLine : String :=
  "strrand 0.1.0\n"

/-- How the program is used, line by line. -/
def usageLines : List String :=
  ["Usage: strrand [OPTIONS] <PATTERN>...",
    "",
    "Options:",
    "  -m, --max <MAX>             Upper bound for quantifiers that leave it open",
    "      --repeat-limit <LIMIT>  Largest repeat count any quantifier may request",
    "  -r, --raw                   Write each character as one byte instead of UTF-8",
    "  -s, --seed <SEED>           Seed for reproducible output",
    "  -n, --count <COUNT>         Strings to generate per pattern",
    "  -l, --legacy                Treat patterns as legacy single-letter patterns",
    "  -v, --verbose               More logging (-v debug, -vv trace)",
    "  -q, --quiet                 Suppress warnings",
    "  -h, --help                  Print help",
    "  -V, --version               Print version"]

/-- How the program is used. -/
def usageText : String :=
  String.join (usageLines.map (· ++ "\n"))

/-- The outcome of a run that draws no texts. -/
def ofEarlyExit : EarlyExit → Outcome
  | .version => ⟨0, versionLine.toUTF8, ""⟩
  | .help => ⟨0, usageText.toUTF8, ""⟩
  | .usage fault => ⟨2, .empty, "error: " ++ fault.message ++ "\n\n" ++ usageText⟩

/-- The outcome of a run with the given settings and source. -/
def ofSettings {σ : Type} [EntropySource σ] (settings : Settings) (source : σ) : Outcome :=
  let (progress, failure) := settings.writeAll settings.patterns ⟨.empty, #[], source⟩
  let log := String.join (settings.filterFaults.map LogFault.line) ++
    settings.filter.lines settings.colours progress.records.toList
  match failure with
  | none => ⟨0, progress.output, log⟩
  | some failure => ⟨1, progress.output, log ++ failure.message⟩

end Outcome

/-- Run the program on arguments and environment.  The spare source serves if no seed is
given. -/
def run (arguments : List String) (environment : Environment) (spare : ChaCha) : Outcome :=
  let settings := do Settings.resolve (← Arguments.read arguments) environment
  match settings with
  | .error exit => .ofEarlyExit exit
  | .ok settings =>
      let source :=
        match settings.seed with
        | some seed => ChaCha.ofSeed seed.toUInt64
        | none => spare
      .ofSettings settings source

end PatternDraw.CommandLine
