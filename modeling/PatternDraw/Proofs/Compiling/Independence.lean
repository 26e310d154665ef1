import PatternDraw.Composer
import PatternDraw.Entropy.Cyclic
import PatternDraw.Proofs.Compiling.Ending
import PatternDraw.Proofs.Reading.Splitting

/-!
# What limits and entropy cannot change

Two compilations of one pattern, with any limits and any sources, read the same pieces in the
same order and can differ only in where they end.  The warnings of one are therefore the first
ones of the other, and a fault found in reading can only be forestalled by a quantifier that
stands before it.
-/

namespace PatternDraw

/-! ## Kinds of faults -/

namespace Fault

/-- The place of a fault that is found in reading. -/
def readingOffset? : Fault → Option Nat
  | unterminatedEscape offset => some offset
  | invalidHexEscape offset _ => some offset
  | unmatchedBracket offset => some offset
  | emptyBracket offset => some offset
  | invalidRepeatBody offset _ => some offset
  | malformedRange offset _ => some offset
  | _ => none

/-- The place of the quantifier that cannot be carried out. -/
def repetitionOffset? : Fault → Option Nat
  | invertedRange offset _ _ => some offset
  | repeatTooLarge offset _ _ => some offset
  | danglingQuantifier offset => some offset
  | _ => none

/-- Whether a fault depends on the numbers that were drawn: a quantifier without a slot, or a
number within the limit that memory cannot hold. -/
def IsIncidental : Fault → Prop
  | danglingQuantifier _ => True
  | repeatTooLarge _ count limit => count ≤ limit
  | _ => False

end Fault

/-- An obstruction is a fault found in reading, not before the place where it starts. -/
theorem Scan.Obstructs.exists_readingOffset {start : Nat} {text : List Char} {halt : Halt}
    (obstructs : Obstructs start text halt) :
    ∃ place, halt.fault.readingOffset? = some place ∧ start ≤ place := by
  cases obstructs with
  | @foreignBody digits => exact ⟨start + 1 + digits.length, rfl, by omega⟩
  | _ => exact ⟨start, rfl, Nat.le_refl start⟩

namespace Compilation

variable {σ τ : Type} [EntropySource σ] [EntropySource τ]

omit [EntropySource τ] in
theorem Refusal.repetitionOffset_eq {limits : Limits} {offset : Nat} {bounds : Bounds}
    {template : Template} {source rest : σ} {fault : Fault}
    (refusal : Refusal limits offset bounds template source fault rest) :
    fault.repetitionOffset? = some offset ∧ fault.readingOffset? = none := by
  cases refusal <;> exact ⟨rfl, rfl⟩

/-- A quantifier with allowed bounds is refused for the numbers that were drawn. -/
theorem Refusal.isIncidental {limits : Limits} {offset : Nat} {bounds : Bounds}
    {template : Template} {source rest : σ} {fault : Fault}
    (refusal : Refusal limits offset bounds template source fault rest)
    (allowed : Allowed limits bounds) : fault.IsIncidental := by
  cases refusal with
  | inverted inverted => exact absurd allowed.1 (Nat.not_le_of_lt inverted)
  | overLimit ordered exceeds => exact absurd allowed.2 (Nat.not_le_of_lt exceeds)
  | dangling _ empty => trivial
  | overCapacity _ chosen exceeds =>
      have greatest := chooseCount_le_upper allowed.1 source
      rw [chosen] at greatest
      exact Nat.le_trans greatest allowed.2

/-- Bounds that are not allowed are refused with the same fault in every run. -/
theorem Refusal.fault_eq {limits : Limits} {offset : Nat} {bounds : Bounds}
    {template otherTemplate : Template} {source rest : σ} {other otherRest : τ}
    {fault otherFault : Fault} (notAllowed : ¬ Allowed limits bounds)
    (refusal : Refusal limits offset bounds template source fault rest)
    (otherRefusal : Refusal limits offset bounds otherTemplate other otherFault otherRest) :
    fault = otherFault := by
  cases refusal with
  | dangling allowed => exact absurd allowed notAllowed
  | overCapacity allowed => exact absurd allowed notAllowed
  | inverted inverted =>
      cases otherRefusal with
      | inverted => rfl
      | overLimit ordered => exact absurd ordered (Nat.not_le_of_lt inverted)
      | dangling allowed => exact absurd allowed notAllowed
      | overCapacity allowed => exact absurd allowed notAllowed
  | overLimit ordered =>
      cases otherRefusal with
      | inverted inverted => exact absurd ordered (Nat.not_le_of_lt inverted)
      | overLimit => rfl
      | dangling allowed => exact absurd allowed notAllowed
      | overCapacity allowed => exact absurd allowed notAllowed

/-! ## Two runs over the same pieces -/

/-- Both compilations succeed, or both fail with the same fault. -/
def Agree (first : Compilation σ) (second : Compilation τ) : Prop :=
  (∃ template otherTemplate, first.outcome = .ok template ∧ second.outcome = .ok otherTemplate) ∨
    ∃ fault, first.outcome = .error fault ∧ second.outcome = .error fault

/-- No fault of the compilation depends on the numbers that were drawn. -/
def IsSteady (compilation : Compilation σ) : Prop :=
  ∀ fault, compilation.outcome = .error fault → ¬ fault.IsIncidental

/-- A quantifier is carried out only with allowed bounds. -/
theorem allowed_of_repeatLast {limits : Limits} {offset : Nat} {bounds : Bounds}
    {template next : Template} {source after : σ}
    (repeated : repeatLast limits offset bounds template source = (.ok next, after)) :
    Allowed limits bounds := by
  obtain ⟨_, _, _, _, found, _⟩ := exists_of_repeatLast_eq_ok repeated
  exact (repetitions_eq_ok_iff.mp found).1

/-- How the same step of two runs can come out: it leads both on or stops both with the same
fault, unless one of them stops for the numbers that were drawn. -/
inductive StepAgrees : Except Fault Template → Except Fault Template → Prop
  | ok (next otherNext : Template) : StepAgrees (.ok next) (.ok otherNext)
  | error (fault : Fault) : StepAgrees (.error fault) (.error fault)
  | first {fault : Fault} (incidental : fault.IsIncidental) (otherOutcome : Except Fault Template) :
      StepAgrees (.error fault) otherOutcome
  | second {fault : Fault} (incidental : fault.IsIncidental) (outcome : Except Fault Template) :
      StepAgrees outcome (.error fault)

theorem repeatLast_agrees {limits : Limits} {offset : Nat} {bounds : Bounds}
    {template otherTemplate : Template} {source after : σ} {other otherAfter : τ}
    {outcome otherOutcome : Except Fault Template}
    (repeated : repeatLast limits offset bounds template source = (outcome, after))
    (otherRepeated :
      repeatLast limits offset bounds otherTemplate other = (otherOutcome, otherAfter)) :
    StepAgrees outcome otherOutcome := by
  cases outcome with
  | ok next =>
      have allowed := allowed_of_repeatLast repeated
      cases otherOutcome with
      | ok otherNext => exact .ok next otherNext
      | error fault => exact .second ((refusal_of_repeatLast otherRepeated).isIncidental allowed) _
  | error fault =>
      have refusal := refusal_of_repeatLast repeated
      by_cases allowed : Allowed limits bounds
      · exact .first (refusal.isIncidental allowed) otherOutcome
      · cases otherOutcome with
        | ok otherNext => exact absurd (allowed_of_repeatLast otherRepeated) allowed
        | error otherFault =>
            rw [refusal.fault_eq allowed (refusal_of_repeatLast otherRepeated)]
            exact .error otherFault

theorem applyPiece_agrees {limits : Limits} {piece : Piece} {template otherTemplate : Template}
    {source after : σ} {other otherAfter : τ} {outcome otherOutcome : Except Fault Template}
    (applied : applyPiece limits piece template source = (outcome, after))
    (otherApplied : applyPiece limits piece otherTemplate other = (otherOutcome, otherAfter)) :
    StepAgrees outcome otherOutcome := by
  rcases piece with ⟨offset, part | part⟩
  · cases applied
    cases otherApplied
    exact .ok _ _
  · exact repeatLast_agrees applied otherApplied

/-- Under the same limits, runs from any templates and sources agree unless the numbers drawn
make one of them fail. -/
theorem agree_ofPieces {limits : Limits} {halt : Option Halt} {pieces : List Piece}
    {template otherTemplate : Template} {source : σ} {other : τ}
    (steady : IsSteady (ofPieces limits halt pieces template source))
    (otherSteady : IsSteady (ofPieces limits halt pieces otherTemplate other)) :
    Agree (ofPieces limits halt pieces template source)
      (ofPieces limits halt pieces otherTemplate other) := by
  induction pieces generalizing template otherTemplate source other with
  | nil =>
      cases halt with
      | none => exact .inl ⟨template, otherTemplate, rfl, rfl⟩
      | some stop => exact .inr ⟨stop.fault, rfl, rfl⟩
  | cons piece rest ih =>
      rcases applied : applyPiece limits piece template source with ⟨outcome, after⟩
      rcases otherApplied : applyPiece limits piece otherTemplate other with
        ⟨otherOutcome, otherAfter⟩
      cases applyPiece_agrees applied otherApplied with
      | ok next otherNext =>
          rw [ofPieces_of_ok applied] at steady ⊢
          rw [ofPieces_of_ok otherApplied] at otherSteady ⊢
          exact ih steady otherSteady
      | error fault =>
          rw [ofPieces_of_error applied, ofPieces_of_error otherApplied]
          exact .inr ⟨fault, rfl, rfl⟩
      | @first fault incidental =>
          rw [ofPieces_of_error applied] at steady
          exact absurd incidental (steady fault rfl)
      | @second fault incidental =>
          rw [ofPieces_of_error otherApplied] at otherSteady
          exact absurd incidental (otherSteady fault rfl)

/-! ## Two compilations of a pattern -/

/-- Of the warnings of two compilations, one list starts with the other. -/
theorem warnings_comparable (limits otherLimits : Limits) (pattern : String) (source : σ)
    (other : τ) :
    (ofPattern limits pattern source).warnings <+:
        (ofPattern otherLimits pattern other).warnings ∨
      (ofPattern otherLimits pattern other).warnings <+:
        (ofPattern limits pattern source).warnings :=
  List.prefix_or_prefix_of_prefix (ending_ofPattern limits pattern source).warnings_isPrefixOf
    (ending_ofPattern otherLimits pattern other).warnings_isPrefixOf

/-- A pattern that compiles has the warnings about all of its pieces. -/
theorem warnings_eq_of_ok {limits : Limits} {pattern : String} {source : σ} {template : Template}
    (compiled : (ofPattern limits pattern source).outcome = .ok template) :
    (ofPattern limits pattern source).warnings =
      allWarnings (Scan.ofPattern pattern.toList).pieces := by
  have ending := ending_ofPattern limits pattern source
  generalize ofPattern limits pattern source = compilation at ending compiled ⊢
  cases ending with
  | complete => rfl
  | halted => cases compiled
  | refused => cases compiled

/-- A fault found in reading is found by every other compilation, unless a quantifier that ends
before its place fails first. -/
theorem exists_error_of_readingOffset {limits : Limits} (otherLimits : Limits) {pattern : String}
    {source : σ} (other : τ) {fault : Fault} {place : Nat}
    (failed : (ofPattern limits pattern source).outcome = .error fault)
    (located : fault.readingOffset? = some place) :
    ∃ otherFault, (ofPattern otherLimits pattern other).outcome = .error otherFault ∧
      (otherFault = fault ∨ ∃ constructs offset part,
        otherFault.repetitionOffset? = some offset ∧
        QuantifierAt pattern.toList constructs offset part ∧
        offset + part.text.length ≤ place) := by
  have ending := ending_ofPattern limits pattern source
  have otherEnding := ending_ofPattern otherLimits pattern other
  have found := Scan.found_ofPattern pattern.toList
  generalize ofPattern limits pattern source = compilation at ending failed
  generalize ofPattern otherLimits pattern other = otherCompilation at otherEnding ⊢
  generalize Scan.ofPattern pattern.toList = scan at ending otherEnding found
  cases ending with
  | complete => cases failed
  | refused _ _ refusal =>
      cases failed
      rw [refusal.repetitionOffset_eq.2] at located
      cases located
  | @halted stop _ _ stopped =>
      cases failed
      cases otherEnding with
      | complete whole => cases stopped.symm.trans whole
      | halted otherStopped =>
          cases stopped.symm.trans otherStopped
          exact ⟨stop.fault, rfl, .inl rfl⟩
      | @refused _ _ offset part _ _ _ otherFault placed _ refusal =>
          cases found with
          | complete => cases stopped
          | obstructed splits obstructs =>
              cases stopped
              obtain ⟨reported, reportedAt, behind⟩ := obstructs.exists_readingOffset
              cases located.symm.trans reportedAt
              obtain ⟨earlier, _, quantifierAt, ends⟩ := splits.quantifierAt placed
              refine ⟨otherFault, rfl, .inr ⟨earlier, offset, part, ?_, quantifierAt, ?_⟩⟩
              · exact refusal.repetitionOffset_eq.1
              · omega

end Compilation

/-! ## Records -/

/-- The warning that a record keeps. -/
def Record.warning? : Record → Option Warning
  | .warning found => some found
  | _ => none

/-- The warnings among the records of a run, in order. -/
def Run.warnings {σ α : Type} (run : Run σ α) : List Warning :=
  run.records.filterMap Record.warning?

namespace Composer

variable {σ τ : Type} [EntropySource σ] [EntropySource τ]

theorem result_templateOf (composer : Composer) (pattern : String) (source : σ) :
    (composer.templateOf pattern source).result =
      (Compilation.ofPattern composer.limits pattern source).outcome := by
  unfold templateOf
  dsimp only
  cases (Compilation.ofPattern composer.limits pattern source).outcome <;> rfl

/-- The warnings that are recorded are those that the compilation finds. -/
theorem warnings_templateOf (composer : Composer) (pattern : String) (source : σ) :
    (composer.templateOf pattern source).warnings =
      (Compilation.ofPattern composer.limits pattern source).warnings := by
  have kept (found : List Warning) :
      (found.map Record.warning).filterMap Record.warning? = found := by
    simp [List.filterMap_map, Function.comp_def, Record.warning?]
  unfold templateOf
  dsimp only
  cases (Compilation.ofPattern composer.limits pattern source).outcome with
  | ok template => simp [Run.warnings, List.filterMap_append, kept, Record.warning?]
  | error fault => exact kept _

/-- Two compilations of a pattern, with any limits and any sources, record warnings of which one
list starts with the other; if both succeed, these are the same and all that each of them finds.
A fault found in reading is found by both, unless the other one fails at a quantifier that ends
before the place of that fault.  Under the same limits both succeed or fail with the same fault,
unless a quantifier meets no slot or memory cannot hold what the limit allows. -/
theorem templateOf_independent (first second : Composer) (pattern : String) (source : σ)
    (other : τ) :
    let run := first.templateOf pattern source
    let otherRun := second.templateOf pattern other
    (run.warnings <+: otherRun.warnings ∨ otherRun.warnings <+: run.warnings) ∧
    (∀ template otherTemplate,
      run.result = .ok template → otherRun.result = .ok otherTemplate →
      run.warnings = otherRun.warnings ∧
        run.warnings = (Compilation.ofPattern first.limits pattern source).warnings ∧
        otherRun.warnings = (Compilation.ofPattern second.limits pattern other).warnings) ∧
    (∀ fault place, run.result = .error fault → fault.readingOffset? = some place →
      ∃ otherFault, otherRun.result = .error otherFault ∧
        (otherFault = fault ∨ ∃ constructs offset part,
          otherFault.repetitionOffset? = some offset ∧
          QuantifierAt pattern.toList constructs offset part ∧
          offset + part.text.length ≤ place)) ∧
    (first.limits = second.limits →
      (∀ fault, run.result = .error fault → ¬ fault.IsIncidental) →
      (∀ fault, otherRun.result = .error fault → ¬ fault.IsIncidental) →
      (∃ template otherTemplate,
        run.result = .ok template ∧ otherRun.result = .ok otherTemplate) ∨
      ∃ fault, run.result = .error fault ∧ otherRun.result = .error fault) := by
  intro run otherRun
  have result := result_templateOf first pattern source
  have otherResult := result_templateOf second pattern other
  have warnings := warnings_templateOf first pattern source
  have otherWarnings := warnings_templateOf second pattern other
  change run.result = _ at result
  change otherRun.result = _ at otherResult
  change run.warnings = _ at warnings
  change otherRun.warnings = _ at otherWarnings
  rw [result, otherResult, warnings, otherWarnings]
  refine ⟨Compilation.warnings_comparable _ _ pattern source other, ?_, ?_, ?_⟩
  · intro template otherTemplate compiled otherCompiled
    have same := (Compilation.warnings_eq_of_ok compiled).trans
      (Compilation.warnings_eq_of_ok otherCompiled).symm
    exact ⟨same, rfl, rfl⟩
  · intro fault place failed located
    exact Compilation.exists_error_of_readingOffset second.limits other failed located
  · intro sameLimits steady otherSteady
    rw [← sameLimits] at otherSteady ⊢
    exact Compilation.agree_ofPieces steady otherSteady

/-- A bracket that does not close is forestalled by a quantifier beyond the limit, and two runs
that draw different numbers agree. -/
theorem forestalled_and_agreeing_runs :
    let zeros : CyclicWords := ⟨0, [], []⟩
    let ones : CyclicWords := ⟨0xffffffff, [], []⟩
    let usual : Composer := {}
    let strict : Composer := .withLimits { repeatLimit := 2 }
    (usual.templateOf "a\x7b3\x7d[b" zeros).result = .error (.unmatchedBracket 4) ∧
    (∃ otherFault, (strict.templateOf "a\x7b3\x7d[b" ones).result = .error otherFault ∧
      (otherFault = .unmatchedBracket 4 ∨ ∃ constructs offset part,
        otherFault.repetitionOffset? = some offset ∧
        QuantifierAt "a\x7b3\x7d[b".toList constructs offset part ∧
        offset + part.text.length ≤ 4)) ∧
    (usual.templateOf "a\x7b1,3\x7d(" zeros).result =
      .ok ⟨#[⟨.single 'a', 0⟩, ⟨.single '(', 6⟩]⟩ ∧
    (usual.templateOf "a\x7b1,3\x7d(" zeros).warnings =
      (usual.templateOf "a\x7b1,3\x7d(" ones).warnings ∧
    ((∃ template otherTemplate,
        (usual.templateOf "a\x7b1,3\x7d(" zeros).result = .ok template ∧
        (usual.templateOf "a\x7b1,3\x7d(" ones).result = .ok otherTemplate) ∨
      ∃ fault, (usual.templateOf "a\x7b1,3\x7d(" zeros).result = .error fault ∧
        (usual.templateOf "a\x7b1,3\x7d(" ones).result = .error fault) := by
  intro zeros ones usual strict
  have failed : (usual.templateOf "a\x7b3\x7d[b" zeros).result =
      .error (.unmatchedBracket 4) := by decide +kernel
  have compiled : (usual.templateOf "a\x7b1,3\x7d(" zeros).result =
      .ok ⟨#[⟨.single 'a', 0⟩, ⟨.single '(', 6⟩]⟩ := by decide +kernel
  have otherCompiled : (usual.templateOf "a\x7b1,3\x7d(" ones).result =
      .ok ⟨#[⟨.single 'a', 0⟩, ⟨.single 'a', 0⟩, ⟨.single 'a', 0⟩, ⟨.single '(', 6⟩]⟩ := by
    decide +kernel
  obtain ⟨_, _, forestalled, _⟩ := templateOf_independent usual strict "a\x7b3\x7d[b" zeros ones
  obtain ⟨_, sameWarnings, _, agreeing⟩ :=
    templateOf_independent usual usual "a\x7b1,3\x7d(" zeros ones
  refine ⟨failed, forestalled _ 4 failed rfl, compiled,
    (sameWarnings _ _ compiled otherCompiled).1, agreeing rfl ?_ ?_⟩
  · intro fault isError
    rw [compiled] at isError
    cases isError
  · intro fault isError
    rw [otherCompiled] at isError
    cases isError

end Composer

end PatternDraw
