import Mathlib.Algebra.Group.Nat.Defs
import Mathlib.Data.List.Forall2
import PatternDraw.Entropy.Cyclic
import PatternDraw.Proofs.Compiling.Concatenation
import PatternDraw.Proofs.Compiling.Ending
import PatternDraw.Proofs.Entropy.Metering

/-!
# Draws made by compiling

Only a quantifier that has a choice draws, and only once its bounds, the limit and its slot have
been found to be in order.  It takes one word or two, whose size depends on its upper bound.  The
account of a compilation says which constructs were carried out, which words they took and how the
compilation ended; what is left of the source is what these words leave.
-/

namespace PatternDraw

open Compilation

/-! ## Words that constructs take -/

/-- A construct that is carried out takes words of these sizes: a quantifier with a choice takes
one or two, and all other constructs take none. -/
inductive Takes (limits : Limits) : Construct → List WordSize → Prop
  | atom (part : Atom) : Takes limits (.atom part) []
  | fixed {part : Quantifier} (single : part.bounds.lower = upperBound limits part.bounds) :
      Takes limits (.quantifier part) []
  | ranged {part : Quantifier} {size : WordSize} {words : List WordSize}
      (choice : part.bounds.lower < upperBound limits part.bounds)
      (sized : size = if upperBound limits part.bounds < 2 ^ 32 then .narrow else .wide)
      (oneOrTwo : words = [size] ∨ words = [size, size]) :
      Takes limits (.quantifier part) words

/-- A quantifier at `offset` behind the given slots fails with the fault and has then taken words
of these sizes.  It takes none unless memory cannot hold the number that it has chosen. -/
inductive FailsTaking (limits : Limits) (offset : Nat) (part : Quantifier) (slots : List Slot) :
    Fault → List WordSize → Prop
  | inverted (inverted : upperBound limits part.bounds < part.bounds.lower) :
      FailsTaking limits offset part slots
        (.invertedRange offset part.bounds.lower (upperBound limits part.bounds)) []
  | overLimit (ordered : part.bounds.lower ≤ upperBound limits part.bounds)
      (exceeds : limits.repeatLimit < upperBound limits part.bounds) :
      FailsTaking limits offset part slots
        (.repeatTooLarge offset (upperBound limits part.bounds) limits.repeatLimit) []
  | dangling (allowed : Allowed limits part.bounds) (empty : slots = []) :
      FailsTaking limits offset part slots (.danglingQuantifier offset) []
  | overCapacity {count : Nat} {words : List WordSize} (allowed : Allowed limits part.bounds)
      (filled : slots ≠ []) (takes : Takes limits (.quantifier part) words)
      (least : part.bounds.lower ≤ count) (greatest : count ≤ upperBound limits part.bounds)
      (exceeds : limits.capacity < count) :
      FailsTaking limits offset part slots (.repeatTooLarge offset count limits.repeatLimit) words

variable {σ : Type} [EntropySource σ]

/-- The constructs have been carried out, with the counts that the source gives: they have led to
the slots and have taken words of these sizes, each its own. -/
structure CarriedOut (limits : Limits) (source : σ) (constructs : List Construct)
    (slots : List Slot) (words : List WordSize) : Prop where
  realizes : Realizes limits 0 constructs [] (drawnCounts limits constructs source).1 slots
  takes : ∃ each, List.Forall₂ (Takes limits) constructs each ∧ words = each.flatten

/-- How a compilation can end, and the sizes of the words that it has then taken. -/
inductive Account (limits : Limits) (pattern : List Char) (source : σ) :
    Except Fault Template → List WordSize → Prop
  | complete {constructs : List Construct} {template : Template} {words : List WordSize}
      (splits : Splits pattern constructs)
      (carriedOut : CarriedOut limits source constructs template.toList words) :
      Account limits pattern source (.ok template) words
  | halted {constructs : List Construct} {behind : List Char} {halt : Halt} {slots : List Slot}
      {words : List WordSize} (splits : SplitsUpTo behind pattern constructs)
      (obstructs : Scan.Obstructs (textOf constructs).length behind halt)
      (carriedOut : CarriedOut limits source constructs slots words) :
      Account limits pattern source (.error halt.fault) words
  | refused {constructs : List Construct} {offset : Nat} {part : Quantifier} {fault : Fault}
      {slots : List Slot} {words own : List WordSize}
      (stands : QuantifierAt pattern constructs offset part)
      (carriedOut : CarriedOut limits source constructs slots words)
      (fails : FailsTaking limits offset part slots fault own) :
      Account limits pattern source (.error fault) (words ++ own)

/-- A quantifier that stands in a pattern is read. -/
theorem QuantifierAt.mem_pieces {pattern : List Char} {constructs : List Construct} {offset : Nat}
    {part : Quantifier} (stands : QuantifierAt pattern constructs offset part) :
    ⟨offset, .quantifier part⟩ ∈ (Scan.ofPattern pattern).pieces := by
  obtain ⟨reaches, wellFormed, rest, spelled⟩ := stands
  have read := Scan.readFrom_of_splitsUpTo reaches.splits 0
  rw [Nat.zero_add, ← reaches.offset_eq, spelled, Scan.readFrom_quantifier wellFormed] at read
  rw [Scan.ofPattern_eq_readFrom, read]
  simp [Scan.prepend]

namespace Compilation

/-- A number of repetitions is chosen with the words that its quantifier takes. -/
theorem exists_takes_chooseCount {limits : Limits} {part : Quantifier}
    (ordered : part.bounds.lower ≤ upperBound limits part.bounds) (source : σ) :
    ∃ words, Takes limits (.quantifier part) words ∧
      (chooseCount part.bounds.lower (upperBound limits part.bounds) source).2 =
        afterWords words source := by
  unfold chooseCount
  split
  · rename_i single
    exact ⟨[], .fixed single, rfl⟩
  · rename_i several
    obtain ⟨words, oneOrTwo, left⟩ := Uniform.exists_words_between part.bounds.lower
      (upperBound limits part.bounds) source
    exact ⟨words, .ranged (Nat.lt_of_le_of_ne ordered several) rfl oneOrTwo, left⟩

/-- Counts that are realized are drawn with the words that their constructs take. -/
theorem exists_takes_drawnCounts {limits : Limits} {offset : Nat} {constructs : List Construct}
    {slots result : List Slot} {counts : List Nat}
    (realizes : Realizes limits offset constructs slots counts result) (source : σ) :
    ∃ each, List.Forall₂ (Takes limits) constructs each ∧
      (drawnCounts limits constructs source).2 = afterWords each.flatten source := by
  induction realizes generalizing source with
  | nil => exact ⟨[], .nil, rfl⟩
  | @atom _ part _ _ _ _ _ ih =>
      obtain ⟨each, takes, left⟩ := ih source
      exact ⟨[] :: each, .cons (.atom part) takes, left⟩
  | @quantifier _ part _ _ _ _ _ _ allowed _ _ _ ih =>
      obtain ⟨own, ownTakes, ownLeft⟩ := exists_takes_chooseCount allowed.1 source
      obtain ⟨each, takes, left⟩ :=
        ih (chooseCount part.bounds.lower (upperBound limits part.bounds) source).2
      refine ⟨own :: each, .cons ownTakes takes, ?_⟩
      rw [List.flatten_cons, afterWords_append, ← ownLeft]
      exact left

/-- Constructs that were compiled have been carried out, and what is left of the source is what
their words leave. -/
theorem exists_carriedOut {limits : Limits} {constructs : List Construct} {template : Template}
    {found : List Warning} {source rest : σ}
    (taken : ofPieces limits none (place 0 constructs) .empty source =
      ⟨.ok template, found, rest⟩) :
    ∃ words, CarriedOut limits source constructs template.toList words ∧
      rest = afterWords words source := by
  obtain ⟨realizes, takenEq⟩ := realizes_of_ofPieces (congrArg Compilation.outcome taken)
  obtain ⟨each, takes, left⟩ := exists_takes_drawnCounts realizes source
  refine ⟨each.flatten, ⟨realizes, each, takes, rfl⟩, ?_⟩
  rw [← left]
  exact congrArg Compilation.source (taken.symm.trans takenEq)

/-- A quantifier that asks for more than memory holds has a slot to repeat. -/
theorem filled_of_repeatTooLarge {limits : Limits} {halt : Option Halt}
    {before behind : List Piece} {offset place count limit : Nat} {part : Quantifier}
    {reached : Template} {found : List Warning} {source middle : σ}
    (taken : ofPieces limits none before .empty source = ⟨.ok reached, found, middle⟩)
    (allowed : Allowed limits part.bounds)
    (failed : (ofPieces limits halt (before ++ ⟨offset, .quantifier part⟩ :: behind) .empty
      source).outcome = .error (.repeatTooLarge place count limit)) : reached.toList ≠ [] := by
  intro empty
  have noSlot : reached.last? = none := by
    rw [Template.last?, ← Array.getLast?_toList, ← Template.toList, empty]
    rfl
  have dangling : applyPiece limits ⟨offset, .quantifier part⟩ reached middle =
      (.error (.danglingQuantifier offset), middle) := repeatLast_of_empty allowed noSlot _ _
  rw [ofPieces_append (congrArg Compilation.outcome taken), taken,
    ofPieces_of_error dangling] at failed
  cases failed

/-- Every compilation has an account, and what is left of the source is what its words leave. -/
theorem exists_account (limits : Limits) (pattern : String) (source : σ) :
    ∃ words, Account limits pattern.toList source (ofPattern limits pattern source).outcome words ∧
      (ofPattern limits pattern source).source = afterWords words source := by
  have ending := ending_ofPattern limits pattern source
  have found := Scan.found_ofPattern pattern.toList
  generalize compiledEq : ofPattern limits pattern source = compilation at ending ⊢
  rw [ofPattern, ofScan] at compiledEq
  generalize Scan.ofPattern pattern.toList = scan at ending found compiledEq
  cases ending with
  | complete whole taken =>
      cases found with
      | obstructed => cases whole
      | complete splits =>
          obtain ⟨words, carriedOut, left⟩ := exists_carriedOut taken
          exact ⟨words, .complete splits.splits carriedOut, left⟩
  | halted stopped taken =>
      cases found with
      | complete => cases stopped
      | obstructed splits obstructs =>
          cases stopped
          rw [Nat.zero_add] at obstructs
          obtain ⟨words, carriedOut, left⟩ := exists_carriedOut taken
          exact ⟨words, .halted splits obstructs carriedOut, left⟩
  | @refused before behind offset part reached middle rest fault placed taken refusal =>
      obtain ⟨constructs, text, splits, pieces⟩ := found.exists_splitsUpTo
      obtain ⟨earlier, rfl, stands, _⟩ := splits.quantifierAt (pieces.symm.trans placed)
      obtain ⟨words, carriedOut, left⟩ := exists_carriedOut taken
      have account : ∃ own, FailsTaking limits offset part reached.toList fault own ∧
          rest = afterWords own middle := by
        cases refusal with
        | inverted inverted => exact ⟨[], .inverted inverted, rfl⟩
        | overLimit ordered exceeds => exact ⟨[], .overLimit ordered exceeds, rfl⟩
        | dangling allowed empty => exact ⟨[], .dangling allowed empty, rfl⟩
        | overCapacity allowed chosen exceeds =>
            rw [placed] at compiledEq
            have filled := filled_of_repeatTooLarge taken allowed
              (congrArg Compilation.outcome compiledEq)
            obtain ⟨own, takes, ownLeft⟩ := exists_takes_chooseCount allowed.1 middle
            have least := lower_le_chooseCount part.bounds.lower
              (upperBound limits part.bounds) middle
            have greatest := chooseCount_le_upper allowed.1 middle
            rw [chosen] at ownLeft least greatest
            exact ⟨own, .overCapacity allowed filled takes least greatest exceeds, ownLeft⟩
      obtain ⟨own, fails, ownLeft⟩ := account
      refine ⟨words ++ own, .refused stands carriedOut fails, ?_⟩
      rw [afterWords_append, ← left]
      exact ownLeft

/-! ## Patterns without a choice -/

variable {τ : Type} [EntropySource τ]

/-- A quantifier without a choice comes out the same with every source, and takes nothing from
it. -/
theorem repeatLast_of_no_choice {limits : Limits} {bounds : Bounds}
    (noChoice : ¬ bounds.lower < upperBound limits bounds) (offset : Nat) (template : Template)
    (source : σ) (other : τ) :
    repeatLast limits offset bounds template other =
      ((repeatLast limits offset bounds template source).1, other) := by
  unfold upperBound at noChoice
  unfold repeatLast
  dsimp only
  split
  · rfl
  · split
    · rfl
    · cases template.last? with
      | none => rfl
      | some slot =>
          have single : bounds.lower = bounds.upper.getD limits.openUpper := by omega
          simp only [chooseCount, if_pos single]
          split <;> rfl

theorem applyPiece_of_no_choice {limits : Limits} {piece : Piece}
    (noChoice : ∀ part, piece.construct = .quantifier part →
      ¬ part.bounds.lower < upperBound limits part.bounds)
    (template : Template) (source : σ) (other : τ) :
    applyPiece limits piece template other =
      ((applyPiece limits piece template source).1, other) := by
  rcases piece with ⟨offset, part | part⟩
  · rfl
  · exact repeatLast_of_no_choice (noChoice part rfl) offset template source other

/-- Pieces without a choice come out the same with every source, and take nothing from it. -/
theorem ofPieces_of_no_choice {limits : Limits} (halt : Option Halt) {pieces : List Piece}
    (noChoice : ∀ piece ∈ pieces, ∀ part, piece.construct = .quantifier part →
      ¬ part.bounds.lower < upperBound limits part.bounds)
    (template : Template) (source : σ) (other : τ) :
    ofPieces limits halt pieces template other =
      ⟨(ofPieces limits halt pieces template source).outcome,
        (ofPieces limits halt pieces template source).warnings, other⟩ := by
  induction pieces generalizing template with
  | nil => cases halt <;> rfl
  | cons piece rest ih =>
      have here := noChoice piece List.mem_cons_self
      have behind := ih fun piece member => noChoice piece (List.mem_cons_of_mem _ member)
      have applied := applyPiece_of_no_choice here template source source
      have otherApplied := applyPiece_of_no_choice here template source other
      generalize (applyPiece limits piece template source).1 = outcome at applied otherApplied
      cases outcome with
      | error fault => rw [ofPieces_of_error applied, ofPieces_of_error otherApplied]
      | ok next =>
          rw [ofPieces_of_ok applied, ofPieces_of_ok otherApplied, behind]
          rfl

/-- Every compilation has an account, whether it succeeds or fails: a construct that has been
carried out has taken one word or two if it is a quantifier with a choice, and none otherwise, and
a quantifier that fails has taken none, unless memory cannot hold the number that it has chosen.
What is left of the source is what these words leave, and a metered source has counted them.
Without a quantifier that has a choice, every source gives the same outcome and the same warnings
and is left as it is. -/
theorem ofPattern_accounted (limits : Limits) (pattern : String) :
    (∀ source : σ, ∃ words,
      Account limits pattern.toList source (ofPattern limits pattern source).outcome words ∧
        (ofPattern limits pattern source).source = afterWords words source) ∧
    (∀ meter : Metered σ, ∃ words,
      Account limits pattern.toList meter (ofPattern limits pattern meter).outcome words ∧
        (ofPattern limits pattern meter).source.narrowDraws =
          meter.narrowDraws + words.count .narrow ∧
        (ofPattern limits pattern meter).source.wideDraws =
          meter.wideDraws + words.count .wide) ∧
    ((∀ constructs offset part, QuantifierAt pattern.toList constructs offset part →
        ¬ part.bounds.lower < upperBound limits part.bounds) →
      ∀ (source : σ) (other : τ), ofPattern limits pattern other =
        ⟨(ofPattern limits pattern source).outcome, (ofPattern limits pattern source).warnings,
          other⟩) := by
  refine ⟨exists_account limits pattern, ?_, ?_⟩
  · intro meter
    obtain ⟨words, account, left⟩ := exists_account limits pattern meter
    rw [left]
    exact ⟨words, account, Metered.afterWords_draws words meter⟩
  · intro noChoice source other
    refine ofPieces_of_no_choice _ ?_ .empty source other
    rintro ⟨offset, _⟩ member part rfl
    obtain ⟨constructs, behind, splits, pieces⟩ :=
      (Scan.found_ofPattern pattern.toList).exists_splitsUpTo
    rw [pieces] at member
    obtain ⟨before, after, placed⟩ := List.append_of_mem member
    obtain ⟨earlier, _, stands, _⟩ := splits.quantifierAt placed
    exact noChoice earlier offset part stands

/-- A quantifier whose slot has been dropped fails with the one word of the quantifier before it,
and a pattern of which no quantifier has a choice compiles in the same way with every source. -/
theorem ofPattern_accounted_of_two_patterns :
    let meter : Metered CyclicWords := ⟨⟨0, [], []⟩, 0, 0⟩
    (∃ words, Account {} "x?\x7b2\x7d".toList meter (.error (.danglingQuantifier 2)) words ∧
      words.count .narrow = 1 ∧ words.count .wide = 0) ∧
    (∀ constructs offset part, QuantifierAt "a\x7b2\x7d(".toList constructs offset part →
      ¬ part.bounds.lower < upperBound {} part.bounds) ∧
    ∀ source other : CyclicWords, ofPattern {} "a\x7b2\x7d(" other =
      ⟨(ofPattern {} "a\x7b2\x7d(" source).outcome,
        (ofPattern {} "a\x7b2\x7d(" source).warnings, other⟩ := by
  intro meter
  have dangling : (ofPattern {} "x?\x7b2\x7d" meter).outcome =
      .error (.danglingQuantifier 2) := by decide +kernel
  have draws : (ofPattern {} "x?\x7b2\x7d" meter).source.narrowDraws = 1 ∧
      (ofPattern {} "x?\x7b2\x7d" meter).source.wideDraws = 0 := by decide +kernel
  have noChoice : ∀ constructs offset part,
      QuantifierAt "a\x7b2\x7d(".toList constructs offset part →
        ¬ part.bounds.lower < upperBound {} part.bounds := by
    intro constructs offset part stands
    have pieces : (Scan.ofPattern "a\x7b2\x7d(".toList).pieces =
        [⟨0, .atom (.literal 'a')⟩, ⟨1, .quantifier (.braces ['2'] ⟨2, some 2⟩)⟩,
          ⟨4, .atom (.literal '(')⟩] := by decide +kernel
    have member := stands.mem_pieces
    rw [pieces] at member
    obtain ⟨_, rfl⟩ : offset = 1 ∧ part = .braces ['2'] ⟨2, some 2⟩ := by simpa using member
    decide
  refine ⟨?_, noChoice, (ofPattern_accounted {} "a\x7b2\x7d(").2.2 noChoice⟩
  obtain ⟨words, account, narrow, wide⟩ :=
    (@ofPattern_accounted CyclicWords _ CyclicWords _ {} "x?\x7b2\x7d").2.1 meter
  rw [dangling] at account
  rw [draws.1, Nat.zero_add] at narrow
  rw [draws.2, Nat.zero_add] at wide
  exact ⟨words, account, narrow.symm, wide.symm⟩

end Compilation

end PatternDraw
