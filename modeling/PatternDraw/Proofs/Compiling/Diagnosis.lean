import PatternDraw.Entropy.Cyclic
import PatternDraw.Proofs.Compiling.Ending
import PatternDraw.Proofs.Reading.Splitting

/-!
# What a fault tells about a pattern

A fault names a place in the pattern and what is wrong there.  Each kind of fault is read here as
a statement about the text from that place on and, for quantifiers, about the constructs before
it.  Whenever a compilation fails, this statement is true.
-/

namespace PatternDraw

open Compilation

variable {σ : Type} [EntropySource σ]

/-- What a fault says about a pattern that is compiled with the given limits and source. -/
def Fault.IsTrueOf (limits : Limits) (pattern : List Char) (source : σ) : Fault → Prop
  | .unterminatedEscape offset =>
      IsDue pattern offset ∧
        (pattern.drop offset = ['\\'] ∨ pattern.drop offset = ['\\', 'x'] ∨
          ∃ ch, pattern.drop offset = ['\\', 'x', ch])
  | .invalidHexEscape offset digits =>
      IsDue pattern offset ∧ ∃ high low rest,
        pattern.drop offset = '\\' :: 'x' :: high :: low :: rest ∧
        digits.toList = [high, low] ∧ ¬ ((hexDigit? high).isSome ∧ (hexDigit? low).isSome)
  | .unmatchedBracket offset =>
      IsDue pattern offset ∧ ∃ rest, pattern.drop offset = '[' :: rest ∧ ']' ∉ rest
  | .emptyBracket offset =>
      IsDue pattern offset ∧ ∃ rest, pattern.drop offset = '[' :: ']' :: rest
  | .invalidRepeatBody offset ch =>
      pattern[offset]? = some ch ∧ Bounds.isBodyChar ch = false ∧
        ∃ start digits more rest, IsDue pattern start ∧
          pattern.drop start = '\x7b' :: (digits ++ ch :: more) ++ '\x7d' :: rest ∧
          '\x7d' ∉ digits ++ ch :: more ∧ offset = start + 1 + digits.length ∧
          ∀ digit ∈ digits, Bounds.isBodyChar digit = true
  | .malformedRange offset body =>
      IsDue pattern offset ∧
        (∃ rest, pattern.drop offset = '\x7b' :: body.toList ++ '\x7d' :: rest) ∧
        (∀ ch ∈ body.toList, Bounds.isBodyChar ch = true) ∧
        (body.toList = [] ∨ 2 ≤ body.toList.count ',' ∨
          ∃ digits ∈ body.toList.splitOn ',', 2 ^ 64 ≤ Text.Decimal.value digits)
  | .invertedRange offset lower upper =>
      ∃ constructs part, QuantifierAt pattern constructs offset part ∧
        part.bounds.lower = lower ∧ upperBound limits part.bounds = upper ∧ upper < lower
  | .repeatTooLarge offset count limit =>
      limit = limits.repeatLimit ∧
        ∃ constructs part, QuantifierAt pattern constructs offset part ∧
          part.bounds.lower ≤ count ∧
          (count = upperBound limits part.bounds ∧ limit < count ∨
            count ≤ limit ∧ count ≤ upperBound limits part.bounds ∧ limits.capacity < count ∧
              count = (chooseCount part.bounds.lower (upperBound limits part.bounds)
                (drawnCounts limits constructs source).2).1)
  | .danglingQuantifier offset =>
      ∃ constructs part, QuantifierAt pattern constructs offset part ∧
        Allowed limits part.bounds ∧
        Realizes limits 0 constructs [] (drawnCounts limits constructs source).1 []
  | .unknownLetter _ => False

namespace Compilation

/-- A fault found in reading is true of the pattern. -/
theorem isTrueOf_of_obstructs {pattern behind : List Char} {constructs : List Construct}
    {halt : Halt} (splits : SplitsUpTo behind pattern constructs)
    (obstructs : Scan.Obstructs (textOf constructs).length behind halt) (limits : Limits)
    (source : σ) : halt.fault.IsTrueOf limits pattern source := by
  have due : IsDue pattern (textOf constructs).length := ⟨constructs, splits.reaches⟩
  have dropped := splits.drop_eq
  generalize (textOf constructs).length = start at obstructs due dropped
  cases obstructs with
  | escape short =>
      rcases short with rfl | rfl | ⟨ch, rfl⟩
      · exact ⟨due, .inl dropped⟩
      · exact ⟨due, .inr (.inl dropped)⟩
      · exact ⟨due, .inr (.inr ⟨ch, dropped⟩)⟩
  | hexEscape misspelled =>
      exact ⟨due, _, _, _, dropped, String.toList_ofList, misspelled⟩
  | openBracket unclosed => exact ⟨due, _, dropped, unclosed⟩
  | emptyBracket => exact ⟨due, _, dropped⟩
  | @foreignBody digits more rest ch allowed foreign unclosed =>
      refine ⟨?_, foreign, start, digits, more, rest, due, dropped, unclosed, rfl, allowed⟩
      rw [Nat.add_assoc, ← List.getElem?_drop, dropped]
      simp [Nat.add_comm 1]
  | @meaninglessBody body rest allowed meaningless =>
      have defect := Bounds.defect_of_forall_not_denoted allowed meaningless
      simp only [Fault.IsTrueOf, String.toList_ofList]
      exact ⟨due, ⟨rest, dropped⟩, allowed, defect⟩

/-- The refusal of a quantifier is true of the pattern in which it stands. -/
theorem isTrueOf_of_refusal {limits : Limits} {pattern : List Char} {constructs : List Construct}
    {offset : Nat} {part : Quantifier} {reached : Template} {found : List Warning}
    {source middle rest : σ} {fault : Fault}
    (quantifierAt : QuantifierAt pattern constructs offset part)
    (taken : ofPieces limits none (place 0 constructs) .empty source = ⟨.ok reached, found, middle⟩)
    (refusal : Refusal limits offset part.bounds reached middle fault rest) :
    fault.IsTrueOf limits pattern source := by
  obtain ⟨realizes, takenEq⟩ := realizes_of_ofPieces (congrArg Compilation.outcome taken)
  have middleEq : middle = (drawnCounts limits constructs source).2 :=
    congrArg Compilation.source (taken.symm.trans takenEq)
  cases refusal with
  | inverted inverted => exact ⟨constructs, part, quantifierAt, rfl, rfl, inverted⟩
  | overLimit ordered exceeds =>
      exact ⟨rfl, constructs, part, quantifierAt, ordered, .inl ⟨rfl, exceeds⟩⟩
  | dangling allowed empty =>
      rw [empty] at realizes
      exact ⟨constructs, part, quantifierAt, allowed, realizes⟩
  | overCapacity allowed chosen exceeds =>
      have least := lower_le_chooseCount part.bounds.lower (upperBound limits part.bounds) middle
      have greatest := chooseCount_le_upper allowed.1 middle
      rw [middleEq] at chosen least greatest
      rw [chosen] at least greatest
      refine ⟨rfl, constructs, part, quantifierAt, least, .inr ⟨?_, greatest, exceeds, ?_⟩⟩
      · exact Nat.le_trans greatest allowed.2
      · rw [chosen]

/-- Whenever a pattern fails to compile, what its fault says about the pattern is true: the text
at the place of the fault is what the fault says it is, and a quantifier that is refused starts
there, behind constructs that have been carried out with the numbers drawn from the source. -/
theorem isTrueOf_of_outcome_eq_error (limits : Limits) (pattern : String) (source : σ)
    (fault : Fault) (failed : (ofPattern limits pattern source).outcome = .error fault) :
    fault.IsTrueOf limits pattern.toList source := by
  have ending := ending_ofPattern limits pattern source
  have found := Scan.found_ofPattern pattern.toList
  generalize ofPattern limits pattern source = compilation at ending failed
  generalize Scan.ofPattern pattern.toList = scan at ending found
  cases ending with
  | complete => cases failed
  | halted stopped =>
      cases failed
      cases found with
      | complete => cases stopped
      | obstructed splits obstructs =>
          cases stopped
          rw [Nat.zero_add] at obstructs
          exact isTrueOf_of_obstructs splits obstructs limits source
  | refused placed taken refusal =>
      cases failed
      obtain ⟨constructs, behind, splits, pieces⟩ := found.exists_splitsUpTo
      obtain ⟨earlier, rfl, quantifierAt, _⟩ := splits.quantifierAt (pieces.symm.trans placed)
      exact isTrueOf_of_refusal quantifierAt taken refusal

/-- A hexadecimal escape behind a character of two bytes, and a quantifier whose slot has been
dropped by the one before it. -/
theorem isTrueOf_of_zero_words :
    let words : CyclicWords := ⟨0, [], []⟩
    (ofPattern {} "é[a-]\\x4g" words).outcome = .error (.invalidHexEscape 5 "4g") ∧
      (Fault.invalidHexEscape 5 "4g").IsTrueOf {} "é[a-]\\x4g".toList words ∧
      (ofPattern {} "x?\x7b2\x7d" words).outcome = .error (.danglingQuantifier 2) ∧
      (Fault.danglingQuantifier 2).IsTrueOf {} "x?\x7b2\x7d".toList words := by
  intro words
  have misspelled : (ofPattern {} "é[a-]\\x4g" words).outcome =
      .error (.invalidHexEscape 5 "4g") := by decide +kernel
  have dangling : (ofPattern {} "x?\x7b2\x7d" words).outcome =
      .error (.danglingQuantifier 2) := by decide +kernel
  exact ⟨misspelled, isTrueOf_of_outcome_eq_error {} _ words _ misspelled,
    dangling, isTrueOf_of_outcome_eq_error {} _ words _ dangling⟩

end Compilation

end PatternDraw
