import PatternDraw.Pattern.Warning

/-!
# Records of what was done

Compiling and generating leave records behind, in the order of events: a warning for each
doubtful character, a note for each compiled pattern and one for each batch.  A record has a
level and the target that it belongs to, by which it can be shown or hidden.
-/

namespace PatternDraw

/-- The importance of a record. -/
inductive Level where
  | error
  | warn
  | info
  | debug
  | trace
  deriving DecidableEq, Repr, Inhabited

namespace Level

/-- The place of a level, the most important first. -/
def rank : Level → Nat
  | error => 1
  | warn => 2
  | info => 3
  | debug => 4
  | trace => 5

/-- The name of a level. -/
def name : Level → String
  | error => "ERROR"
  | warn => "WARN"
  | info => "INFO"
  | debug => "DEBUG"
  | trace => "TRACE"

end Level

/-- Something that was found or done. -/
inductive Record where
  /-- A warning was found. -/
  | warning (warning : Warning)
  /-- A pattern was compiled, to so many slots and with so many warnings. -/
  | compiled (pattern : String) (slots warnings : Nat)
  /-- A batch of so many patterns was started. -/
  | batch (patterns : Nat)
  deriving DecidableEq, Repr, Inhabited

namespace Record

/-- The importance of a record. -/
def level : Record → Level
  | .warning _ => .warn
  | .compiled _ _ _ => .debug
  | .batch _ => .debug

/-- The part of the program that a record belongs to. -/
def target : Record → String
  | .warning _ => "strrand::pattern::compiler"
  | .compiled _ _ _ => "strrand::pattern::compiler"
  | .batch _ => "strrand::generator"

/-- The record as a line of text. -/
def message : Record → String
  | .warning found => found.message
  | .compiled pattern slots warnings =>
      "compiled " ++ Text.quoted pattern ++ " into " ++ toString slots ++ " tokens (" ++
        toString warnings ++ " diagnostics)"
  | .batch patterns => "generating batch of " ++ toString patterns ++ " patterns"

/-- The record with its level, as one line. -/
def summary (record : Record) : String :=
  record.level.name ++ " " ++ record.message

end Record

end PatternDraw
