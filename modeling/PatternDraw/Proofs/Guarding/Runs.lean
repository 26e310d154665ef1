import PatternDraw.Entropy.Cyclic
import PatternDraw.Proofs.Drawing.Language
import PatternDraw.Proofs.Guarding.Operations
import PatternDraw.Proofs.Letters.Bindings
import PatternDraw.Proofs.Reading.Splitting

/-!
# Runs within the domains of all operations

The steps of compiling and drawing are carried out here with guarded operations: a run has a
result only if none of its operations is outside its domain.  Every run has one, and it is the
result of the run without guards.
-/

namespace PatternDraw

variable {σ : Type} [EntropySource σ]

namespace Compilation

/-! ## Compiling with guards -/

/-- Choose how often to repeat, from an interval that must not be empty. -/
def chooseCount? (lower upper : Nat) (source : σ) : Option (Nat × σ) :=
  if lower = upper then some (lower, source) else Uniform.between? lower upper source

/-- Repeat the last slot.  The number of its further copies is found before it is known whether
memory holds them. -/
def repeatLast? (limits : Limits) (offset : Nat) (bounds : Bounds) (template : Template)
    (source : σ) : Option (Except Fault Template × σ) :=
  let upper := bounds.upper.getD limits.openUpper
  if upper < bounds.lower then
    some (.error (.invertedRange offset bounds.lower upper), source)
  else if limits.repeatLimit < upper then
    some (.error (.repeatTooLarge offset upper limits.repeatLimit), source)
  else
    match template.last? with
    | none => some (.error (.danglingQuantifier offset), source)
    | some slot => do
        let (count, source) ← chooseCount? bounds.lower upper source
        let repeated ← template.replaceLast? count slot
        if limits.capacity < count then
          return (.error (.repeatTooLarge offset count limits.repeatLimit), source)
        else return (.ok repeated, source)

/-- Take one construct. -/
def applyPiece? (limits : Limits) (piece : Piece) (template : Template) (source : σ) :
    Option (Except Fault Template × σ) :=
  match piece.construct with
  | .atom part => do
      let alphabet ← part.alphabet?
      let template ← template.push? ⟨alphabet, piece.offset⟩
      return (.ok template, source)
  | .quantifier part => repeatLast? limits piece.offset part.bounds template source

/-- Take the constructs in order. -/
def ofPieces? (limits : Limits) (halt : Option Halt) :
    List Piece → Template → σ → Option (Compilation σ)
  | [], template, source => some (finish halt template source)
  | piece :: rest, template, source =>
      (applyPiece? limits piece template source).bind fun
        | (.ok template, source) =>
            (ofPieces? limits halt rest template source).map (prependWarnings piece.warnings)
        | (.error fault, source) => some ⟨.error fault, piece.warnings, source⟩

/-- Compile a pattern. -/
def ofPattern? (limits : Limits) (pattern : String) (source : σ) : Option (Compilation σ) :=
  let scan := Scan.ofPattern pattern.toList
  ofPieces? limits scan.halt scan.pieces .empty source

theorem chooseCount?_eq_some {lower upper : Nat} (ordered : lower ≤ upper) (source : σ) :
    chooseCount? lower upper source = some (chooseCount lower upper source) := by
  unfold chooseCount? chooseCount
  split
  · rfl
  · exact Uniform.between?_eq_some ordered source

theorem repeatLast?_eq_some (limits : Limits) (offset : Nat) (bounds : Bounds)
    (template : Template) (source : σ) :
    repeatLast? limits offset bounds template source =
      some (repeatLast limits offset bounds template source) := by
  unfold repeatLast? repeatLast
  dsimp only
  split
  · rfl
  · rename_i ordered
    split
    · rfl
    · cases last : template.last? with
      | none => rfl
      | some slot =>
          have chosen := chooseCount?_eq_some (Nat.le_of_not_lt ordered) source
          simp only [chosen, Template.replaceLast?_eq_some last, Option.bind_eq_bind,
            Option.bind_some, Option.pure_def]
          split
          · rfl
          · rfl

/-- A well-formed construct is taken within the domain of all operations. -/
theorem applyPiece?_eq_some {construct : Construct} {rest : List Char}
    (stands : construct.StandsBefore rest) (limits : Limits) (offset : Nat) (template : Template)
    (source : σ) :
    applyPiece? limits ⟨offset, construct⟩ template source =
      some (applyPiece limits ⟨offset, construct⟩ template source) := by
  cases construct with
  | quantifier part => exact repeatLast?_eq_some limits offset part.bounds template source
  | atom part =>
      have inhabited : 0 < (⟨part.alphabet, offset⟩ : Slot).alphabet.size :=
        Atom.size_alphabet_pos stands
      have pushed := template.push?_eq_some inhabited
      simp only [applyPiece?, applyPiece, Atom.alphabet?_eq_some stands, pushed,
        Option.bind_eq_bind, Option.bind_some, Option.pure_def]

theorem ofPieces?_eq_some {pattern behind : List Char} {constructs : List Construct}
    (splits : SplitsUpTo behind pattern constructs) (limits : Limits) (halt : Option Halt)
    (offset : Nat) (template : Template) (source : σ) :
    ofPieces? limits halt (place offset constructs) template source =
      some (ofPieces limits halt (place offset constructs) template source) := by
  induction splits generalizing offset template source with
  | nil => rfl
  | @cons construct rest constructs stands _ ih =>
      rw [place, ofPieces?, applyPiece?_eq_some stands, Option.bind_some]
      cases applied : applyPiece limits ⟨offset, construct⟩ template source with
      | mk outcome after =>
          cases outcome with
          | ok next =>
              rw [ofPieces_of_ok applied]
              simp only [ih, Option.map_some]
          | error fault => rw [ofPieces_of_error applied]

/-- Every pattern is compiled within the domain of all operations. -/
theorem ofPattern?_eq_some (limits : Limits) (pattern : String) (source : σ) :
    ofPattern? limits pattern source = some (ofPattern limits pattern source) := by
  obtain ⟨constructs, behind, splits, pieces⟩ :=
    (Scan.found_ofPattern pattern.toList).exists_splitsUpTo
  rw [ofPattern?, ofPattern, ofScan, pieces]
  exact ofPieces?_eq_some splits limits _ 0 .empty source

end Compilation

namespace Composer

/-! ## Letter patterns with guards -/

/-- Draw one character for each letter, after the characters drawn so far. -/
def drawLettersFrom? (composer : Composer) (drawn : String) :
    List Char → σ → Option (Run σ String)
  | [], source => some ⟨.ok drawn, [], source⟩
  | letter :: rest, source =>
      match composer.letters.get? letter with
      | none => some ⟨.error (.unknownLetter letter), [], source⟩
      | some alphabet => do
          let (drawn, source) ← alphabet.extend? drawn source
          drawLettersFrom? composer drawn rest source

/-- Draw a text from a letter pattern. -/
def drawLetters? (composer : Composer) (letters : String) (source : σ) : Option (Run σ String) :=
  composer.drawLettersFrom? "" letters.toList source

theorem drawLettersFrom?_eq_some {composer : Composer} (inhabited : composer.letters.IsInhabited)
    (drawn : String) (letters : List Char) (source : σ) :
    composer.drawLettersFrom? drawn letters source =
      some (composer.drawLettersFrom drawn letters source) := by
  induction letters generalizing drawn source with
  | nil => rfl
  | cons letter rest ih =>
      rw [drawLettersFrom?, drawLettersFrom]
      cases bound : composer.letters.get? letter with
      | none => rfl
      | some alphabet =>
          have extended := Alphabet.extend?_eq_some (inhabited.size_pos_of_get? bound) drawn source
          simp only [extended, Option.bind_eq_bind, Option.bind_some, ih]

/-! ## All runs -/

variable {τ : Type} [EntropySource τ]

/-- No operation of a run is outside its domain.  Whatever alphabets a caller has bound, bound
letters have candidates, and so have the slots of compiled templates; every guarded run
therefore has a result, and it is the one of the run without guards.  A bracket is listed while
it is read, also if it does not close, so it is listed here on its own as well. -/
theorem guarded_runs_eq_some (composer : Composer) (reached : composer.letters.Reached)
    (pattern letters : String) (body : List Char) (source : σ) (other : τ) :
    (∀ letter alphabet, composer.letters.get? letter = some alphabet → 0 < alphabet.size) ∧
      (∀ template, (Compilation.ofPattern composer.limits pattern source).outcome = .ok template →
        (∀ slot ∈ template.toList, 0 < slot.alphabet.size) ∧
          template.draw? other = some (template.draw other)) ∧
      Compilation.ofPattern? composer.limits pattern source =
        some (Compilation.ofPattern composer.limits pattern source) ∧
      Bracket.alphabet? body = some (Bracket.alphabet body) ∧
      composer.drawLetters? letters source = some (composer.drawLetters letters source) := by
  have inhabited := reached.isInhabited
  refine ⟨fun letter alphabet => inhabited.size_pos_of_get?, ?_,
    Compilation.ofPattern?_eq_some composer.limits pattern source, Bracket.alphabet?_eq_some body,
    drawLettersFrom?_eq_some inhabited "" letters.toList source⟩
  intro template compiled
  have slotsInhabited := Compilation.size_pos_of_ofPattern_eq_ok compiled
  exact ⟨slotsInhabited, Template.draw?_eq_some slotsInhabited other⟩

/-- A caller has unbound a usual letter and bound another one.  The pattern lists a reversed and
an ordinary range, spells the last byte in hexadecimal and drops a slot. -/
theorem guarded_runs_of_zero_words :
    let words : CyclicWords := ⟨0, [], []⟩
    let table := ((LetterTable.standard.set 'C' ⟨#[]⟩).2.set 'z' (.single 'Z')).2
    let composer : Composer := { letters := table }
    let pattern := "[b-a-c]\\xfFx?"
    table.Reached ∧
      composer.drawLetters? "nzC" words = some (composer.drawLetters "nzC" words) ∧
      Compilation.ofPattern? {} pattern words = some (Compilation.ofPattern {} pattern words) ∧
      ∃ template, (Compilation.ofPattern {} pattern words).outcome = .ok template ∧
        (∀ slot ∈ template.toList, 0 < slot.alphabet.size) ∧
        template.draw? words = some (template.draw words) := by
  intro words table composer pattern
  have reached : table.Reached := .set (.set .standard 'C' ⟨#[]⟩) 'z' (.single 'Z')
  have compiled : (Compilation.ofPattern {} pattern words).outcome =
      .ok ⟨#[⟨.ofString "bc", 0⟩, ⟨.single 'ÿ', 7⟩]⟩ := by
    decide +kernel
  obtain ⟨_, drawn, guarded, _, letters⟩ :=
    guarded_runs_eq_some composer reached pattern "nzC" [] words words
  exact ⟨reached, letters, guarded, _, compiled, drawn _ compiled⟩

end Composer

end PatternDraw
