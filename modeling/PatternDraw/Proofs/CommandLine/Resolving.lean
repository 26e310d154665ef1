import PatternDraw.CommandLine.Outcome

/-!
# Settings that are made

Which arguments make settings, and what of them changes with a switch: the switches for the log
change what is shown, the switch for single bytes changes how texts are written, and nothing
else follows from them.
-/

namespace PatternDraw.CommandLine

namespace Settings

/-- The source of a run, given the one that serves without a seed. -/
def source (settings : Settings) (spare : ChaCha) : ChaCha :=
  match settings.seed with
  | some seed => ChaCha.ofSeed seed.toUInt64
  | none => spare

end Settings

/-! ## The whole program -/

/-- The settings that the program makes of its arguments and environment. -/
def settingsOf (arguments : List String) (environment : Environment) :
    Except EarlyExit Settings :=
  Arguments.read arguments >>= (Settings.resolve · environment)

end PatternDraw.CommandLine
