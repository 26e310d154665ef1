import PatternDraw.CommandLine.Outcome
import PatternDraw.Proofs.Drawing.Rows
import PatternDraw.Proofs.Text.SingleBytes

/-!
# Generations of a run

A run draws from each of its patterns a number of times before it turns to the next one.  These
generations form one row, through which the source is handed on.  What a run writes is decided
by the row alone: the texts that are drawn up to the first generation that fails.
-/

namespace PatternDraw

variable {σ : Type}

/-! ## Lines -/

/-- Texts on lines of their own. -/
def lines : List String → String
  | [] => ""
  | text :: rest => text ++ "\n" ++ lines rest

theorem lines_append (first second : List String) :
    lines (first ++ second) = lines first ++ lines second := by
  induction first with
  | nil => simp [lines]
  | cons text rest ih => simp [lines, ih, String.append_assoc]

namespace CommandLine

variable [EntropySource σ]

/-- The patterns of a run, each as often as a text is drawn from it. -/
def Settings.generations (settings : Settings) : List String :=
  settings.patterns.flatMap (List.replicate settings.count)

namespace Settings

/-- Why nothing is written for what a generation came to. -/
inductive Fails (settings : Settings) (pattern : String) : Run σ String → Failure → Prop
  | generation (fault : Fault) (records : List Record) (source : σ) :
      Fails settings pattern ⟨.error fault, records, source⟩ (.generation pattern fault)
  | wideOutput {text : String} (unwritable : settings.encode? text = none)
      (records : List Record) (source : σ) :
      Fails settings pattern ⟨.ok text, records, source⟩ (.wideOutput pattern)

theorem Fails.writeOne {settings : Settings} {pattern : String} {run : Run σ String}
    {failure : Failure} (fails : settings.Fails pattern run failure) {source : σ}
    (comes : settings.drawText pattern source = run) (output : ByteArray)
    (before : Array Record) :
    settings.writeOne pattern ⟨output, before, source⟩ =
      (⟨output, before ++ run.records, run.source⟩, some failure) := by
  subst comes
  unfold Settings.writeOne
  generalize settings.drawText pattern source = run at fails
  cases fails with
  | generation fault records source => rfl
  | wideOutput unwritable records source => simp only [unwritable]

/-- The log of a run with the given records. -/
def log (settings : Settings) (records : List Record) : String :=
  String.join (settings.filterFaults.map LogFault.line) ++
    settings.filter.lines settings.colours records

end Settings

namespace Outcome

end Outcome

end CommandLine

end PatternDraw
