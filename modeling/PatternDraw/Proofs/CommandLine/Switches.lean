import PatternDraw.CommandLine.Arguments

/-!
# Switches in front of the arguments

Where a switch stands makes no difference to what the other arguments say.  Arguments that can
be read are read in the same way behind a switch, unless it is one that is allowed once and they
turn it on themselves.
-/

namespace PatternDraw.CommandLine.Arguments

/-! ## Results of steps -/

private theorem map_eq_ok_iff {α β : Type} {result : Except EarlyExit α} {change : α → β}
    {next : β} :
    result.map change = .ok next ↔ ∃ value, result = .ok value ∧ change value = next := by
  cases result <;> simp [Except.map]

private theorem bind_eq_ok_iff {α β : Type} {result : Except EarlyExit α}
    {continuation : α → Except EarlyExit β} {next : β} :
    result >>= continuation = .ok next ↔
      ∃ value, result = .ok value ∧ continuation value = .ok next := by
  cases result <;> simp [bind, Except.bind]

private theorem once_eq_ok_iff {on : Bool} {stop : EarlyExit} {turned next : Arguments} :
    (if on = true then Except.error stop else Except.ok turned) = Except.ok next ↔
      on = false ∧ turned = next := by
  cases on <;> simp

/-! ## One switch -/

/-- Whether a switch is on that is allowed only once. -/
def isOn (arguments : Arguments) : Switch → Bool
  | .raw => arguments.raw
  | .letters => arguments.letters
  | .quiet => arguments.quiet
  | _ => false

/-- The arguments with a switch turned on. -/
def withSwitch (arguments : Arguments) : Switch → Arguments
  | .raw => { arguments with raw := true }
  | .letters => { arguments with letters := true }
  | .quiet => { arguments with quiet := true }
  | .verbose => { arguments with verbosity := arguments.verbosity + 1 }
  | _ => arguments

theorem turnOn_eq_ok_iff {arguments next : Arguments} {switch : Switch} :
    arguments.turnOn switch = .ok next ↔
      (switch ≠ .version ∧ switch ≠ .help) ∧ arguments.isOn switch = false ∧
        arguments.withSwitch switch = next := by
  cases switch <;> simp [turnOn, isOn, withSwitch, once_eq_ok_iff]

theorem setNumber_eq_ok_iff {arguments next : Arguments} {option : NumberOption}
    {value : String} :
    arguments.setNumber option value = .ok next ↔
      (arguments.number? option).isSome = false ∧
        ∃ number, Text.Decimal.readSigned? value.toList = some number ∧
          arguments.withNumber option number = next := by
  unfold setNumber
  cases (arguments.number? option).isSome with
  | true => simp
  | false => cases Text.Decimal.readSigned? value.toList <;> simp

/-- The reader with a switch turned on before. -/
def Reader.withSwitch (reader : Reader) (switch : Switch) : Reader :=
  { reader with arguments := reader.arguments.withSwitch switch }

/-! ## Steps of reading -/

/-- A step of reading goes the same way if the switch has been turned on before.  Where the
switch is allowed once, this is about steps that do not turn it on. -/
def Ignores (switch : Switch) (step : Reader → Except EarlyExit Reader) : Prop :=
  ∀ reader next, step reader = .ok next → next.arguments.isOn switch = false →
    reader.arguments.isOn switch = false ∧
      step (reader.withSwitch switch) = .ok (next.withSwitch switch)

namespace Ignores

variable (switch : Switch)

theorem turnOn (other : Switch) {arguments next : Arguments}
    (turned : arguments.turnOn other = .ok next) (off : next.isOn switch = false) :
    arguments.isOn switch = false ∧
      (arguments.withSwitch switch).turnOn other = .ok (next.withSwitch switch) := by
  obtain ⟨goesOn, otherOff, rfl⟩ := turnOn_eq_ok_iff.mp turned
  rw [turnOn_eq_ok_iff]
  cases switch <;> cases other <;> simp_all [isOn, withSwitch]

theorem setNumber (option : NumberOption) (value : String) {arguments next : Arguments}
    (set : arguments.setNumber option value = .ok next) (off : next.isOn switch = false) :
    arguments.isOn switch = false ∧
      (arguments.withSwitch switch).setNumber option value = .ok (next.withSwitch switch) := by
  obtain ⟨free, number, found, rfl⟩ := setNumber_eq_ok_iff.mp set
  have offBefore : arguments.isOn switch = false := by
    cases switch <;> cases option <;> exact off
  have freeBehind : ((arguments.withSwitch switch).number? option).isSome = false := by
    cases switch <;> cases option <;> exact free
  refine ⟨offBefore, setNumber_eq_ok_iff.mpr ⟨freeBehind, number, found, ?_⟩⟩
  cases switch <;> cases option <;> rfl

theorem addPattern (pattern : String) :
    Ignores switch fun reader =>
      .ok { reader with arguments := reader.arguments.addPattern pattern } := by
  intro reader next stepped off
  cases stepped
  cases switch <;> exact ⟨off, rfl⟩

theorem number (option : NumberOption) (value : String) :
    Ignores switch fun reader => (reader.arguments.setNumber option value).map fun arguments =>
      { reader with arguments := arguments } := by
  intro reader next stepped off
  obtain ⟨arguments, set, rfl⟩ := map_eq_ok_iff.mp stepped
  obtain ⟨offBefore, setBehind⟩ := setNumber switch option value set off
  exact ⟨offBefore, map_eq_ok_iff.mpr ⟨_, setBehind, rfl⟩⟩

theorem readLetters (letters : List Char) : Ignores switch (readLetters · letters) := by
  induction letters with
  | nil =>
      intro reader next stepped off
      cases stepped
      exact ⟨off, rfl⟩
  | cons letter rest ih =>
      intro reader next stepped off
      simp only [Arguments.readLetters] at stepped ⊢
      cases named : OptionName.ofLetter? letter with
      | none =>
          simp only [named] at stepped
          cases stepped
      | some name =>
          simp only [named] at stepped ⊢
          cases name with
          | flag other =>
              cases turned : reader.arguments.turnOn other with
              | error stop =>
                  simp only [turned] at stepped
                  cases stepped
              | ok arguments =>
                  simp only [turned] at stepped
                  obtain ⟨offBehind, behind⟩ := ih _ _ stepped off
                  obtain ⟨offBefore, turnedBehind⟩ := turnOn switch other turned offBehind
                  refine ⟨offBefore, ?_⟩
                  simp only [Reader.withSwitch, turnedBehind]
                  exact behind
          | number option =>
              cases rest with
              | nil =>
                  cases stepped
                  exact ⟨off, rfl⟩
              | cons first others => exact number switch option _ reader next stepped off

theorem readWord (word : String) (value : Option String) :
    Ignores switch (readWord · word value) := by
  intro reader next stepped off
  simp only [Arguments.readWord] at stepped ⊢
  cases named : OptionName.ofWord? word with
  | none =>
      simp only [named] at stepped
      cases stepped
  | some name =>
      simp only [named] at stepped ⊢
      cases name with
      | flag other =>
          cases value with
          | some text => cases stepped
          | none =>
              obtain ⟨arguments, turned, rfl⟩ := map_eq_ok_iff.mp stepped
              obtain ⟨offBefore, turnedBehind⟩ := turnOn switch other turned off
              exact ⟨offBefore, map_eq_ok_iff.mpr ⟨_, turnedBehind, rfl⟩⟩
      | number option =>
          cases value with
          | none =>
              cases stepped
              exact ⟨off, rfl⟩
          | some text => exact number switch option text reader next stepped off

theorem readFree (argument : String) : Ignores switch (readFree · argument) := by
  intro reader next stepped off
  have ended : (reader.withSwitch switch).optionsEnded = reader.optionsEnded := rfl
  simp only [Arguments.readFree, ended] at stepped ⊢
  split at stepped
  · rename_i patternsOnly
    rw [if_pos patternsOnly]
    exact addPattern switch argument reader next stepped off
  · rename_i optionsToo
    rw [if_neg optionsToo]
    split at stepped
    · cases stepped
      exact ⟨off, rfl⟩
    · exact readWord switch _ _ reader next stepped off
    · exact readLetters switch _ reader next stepped off
    · exact addPattern switch argument reader next stepped off

theorem readOne (argument : String) : Ignores switch (readOne · argument) := by
  intro reader next stepped off
  have awaited : (reader.withSwitch switch).awaiting = reader.awaiting := rfl
  simp only [Arguments.readOne, awaited] at stepped ⊢
  cases awaiting : reader.awaiting with
  | none =>
      simp only [awaiting] at stepped ⊢
      exact readFree switch argument reader next stepped off
  | some option =>
      simp only [awaiting] at stepped ⊢
      split at stepped
      · cases stepped
      · rename_i isValue
        rw [if_neg isValue]
        obtain ⟨arguments, set, rfl⟩ := map_eq_ok_iff.mp stepped
        obtain ⟨offBefore, setBehind⟩ := setNumber switch option argument set off
        exact ⟨offBefore, map_eq_ok_iff.mpr ⟨_, setBehind, rfl⟩⟩

/-- A whole row of arguments is read in the same way. -/
theorem foldlM (arguments : List String) :
    Ignores switch fun reader => arguments.foldlM Arguments.readOne reader := by
  induction arguments with
  | nil =>
      intro reader next stepped off
      cases stepped
      exact ⟨off, rfl⟩
  | cons argument rest ih =>
      intro reader next stepped off
      simp only [List.foldlM_cons, bind_eq_ok_iff] at stepped ⊢
      obtain ⟨middle, first, onward⟩ := stepped
      -- A switch that is off at the end is off behind the first step as well.
      obtain ⟨offBehind, behind⟩ := ih middle next onward off
      obtain ⟨offBefore, here⟩ := readOne switch argument reader middle first offBehind
      exact ⟨offBefore, _, here, behind⟩

end Ignores

/-! ## All arguments -/

end PatternDraw.CommandLine.Arguments
