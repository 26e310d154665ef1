import PatternDraw.Entropy.Cyclic
import PatternDraw.Proofs.Letters.Agreement
import PatternDraw.Proofs.Letters.Histories

/-!
# Letters are looked up while texts are drawn

A letter pattern is drawn from letter by letter: each letter is looked up when its turn has come.
What is drawn is what a template draws whose slots have the alphabets of the letters.  The first
letter that is not bound ends the run, and the characters of the letters before it have been drawn
by then.
-/

namespace PatternDraw

namespace LetterTable

/-- The slots of the template have, in order, the alphabets to which the letters are bound. -/
def Names (table : LetterTable) (letters : List Char) (template : Template) : Prop :=
  List.Forall₂ (fun letter slot => table.get? letter = some slot.alphabet) letters template.toList

theorem names_nil (table : LetterTable) : table.Names [] .empty :=
  .nil

theorem Names.cons {table : LetterTable} {letter : Char} {alphabet : Alphabet}
    (bound : table.get? letter = some alphabet) {letters : List Char} {template : Template}
    (names : table.Names letters template) (offset : Nat) :
    table.Names (letter :: letters) ⟨(⟨alphabet, offset⟩ :: template.toList).toArray⟩ :=
  List.Forall₂.cons bound names

/-- Letters that name a template are bound. -/
theorem Names.forall_mem_letters {table : LetterTable} {letters : List Char}
    {template : Template} (names : table.Names letters template) :
    ∀ letter ∈ letters, letter ∈ table.letters := by
  have bound : List.Forall₂
      (fun letter slot => letter ∈ table.letters ∧ table.get? letter = some slot.alphabet)
      letters template.toList :=
    List.Forall₂.imp (fun _ _ found => ⟨mem_letters_iff.mpr ⟨_, found⟩, found⟩) names
  exact ((List.forall₂_and_left _ _).mp bound).1

/-- The alphabets of a template that letters name are those of letters. -/
theorem Names.exists_get? {table : LetterTable} {letters : List Char} {template : Template}
    (names : table.Names letters template) :
    ∀ slot ∈ template.toList, ∃ letter, table.get? letter = some slot.alphabet := by
  have bound : List.Forall₂
      (fun slot letter => (∃ letter, table.get? letter = some slot.alphabet) ∧
        table.get? letter = some slot.alphabet) template.toList letters :=
    List.Forall₂.imp (fun _ letter found => ⟨⟨letter, found⟩, found⟩) (List.Forall₂.flip names)
  exact ((List.forall₂_and_left _ _).mp bound).1

/-- Letters name a template, or one of them is the first that is not bound. -/
theorem names_or_unbound (table : LetterTable) (letters : List Char) :
    (∃ template, table.Names letters template) ∨
      ∃ before letter behind template, letters = before ++ letter :: behind ∧
        table.Names before template ∧ letter ∉ table.letters := by
  induction letters with
  | nil => exact .inl ⟨.empty, table.names_nil⟩
  | cons letter rest ih =>
      cases bound : table.get? letter with
      | none =>
          refine .inr ⟨[], letter, rest, .empty, rfl, table.names_nil, ?_⟩
          rw [mem_letters_iff]
          rintro ⟨alphabet, present⟩
          rw [bound] at present
          cases present
      | some alphabet =>
          rcases ih with ⟨template, names⟩ | ⟨before, unbound, behind, template, rfl, names, missing⟩
          · exact .inl ⟨_, .cons bound names 0⟩
          · exact .inr ⟨letter :: before, unbound, behind, _, rfl, .cons bound names 0, missing⟩

end LetterTable

theorem Run.map_map {σ α β γ : Type} (run : Run σ α) (first : α → β) (second : β → γ) :
    (run.map first).map second = run.map (second ∘ first) := by
  rcases run with ⟨_ | result, records, source⟩ <;> rfl

variable {σ : Type} [EntropySource σ]

namespace Composer

/-! ## Runs -/

/-- A row of letters is drawn from after the letters before it. -/
theorem drawLettersFrom_append (composer : Composer) (drawn : String) (first second : List Char)
    (source : σ) :
    composer.drawLettersFrom drawn (first ++ second) source =
      (composer.drawLettersFrom drawn first source).andThen fun text rest =>
        composer.drawLettersFrom text second rest := by
  induction first generalizing drawn source with
  | nil => rfl
  | cons letter rest ih =>
      simp only [List.cons_append, drawLettersFrom]
      cases composer.letters.get? letter with
      | none => rfl
      | some alphabet => exact ih _ _

/-- The characters of letters are added to the text drawn so far, whatever it is. -/
theorem drawLettersFrom_eq_map (composer : Composer) (drawn : String) (letters : List Char)
    (source : σ) :
    composer.drawLettersFrom drawn letters source =
      (composer.drawLettersFrom "" letters source).map (drawn ++ ·) := by
  induction letters generalizing drawn source with
  | nil => simp [drawLettersFrom, Run.map, Except.map]
  | cons letter rest ih =>
      simp only [drawLettersFrom]
      cases composer.letters.get? letter with
      | none => rfl
      | some alphabet =>
          have here := alphabet.extend_append drawn "" source
          rw [String.append_empty] at here
          dsimp only
          rw [here, ih, ih (alphabet.extend "" source).1, Run.map_map]
          simp only [Function.comp_def, String.append_assoc]

/-- Letters that name a template draw what it draws. -/
theorem drawLetters_of_names {composer : Composer} {letters : String} {template : Template}
    (names : composer.letters.Names letters.toList template) (source : σ) :
    composer.drawLetters letters source =
      ⟨.ok (template.draw source).1, [], (template.draw source).2⟩ := by
  rw [Template.draw_eq_drawSlots]
  exact drawLettersFrom_eq_drawSlots names "" source

/-- A letter that is not bound ends the run, behind what the letters before it have drawn. -/
theorem drawLetters_of_unbound {composer : Composer} {letters : String} {before behind : List Char}
    {letter : Char} {template : Template} (spelled : letters.toList = before ++ letter :: behind)
    (names : composer.letters.Names before template) (unbound : letter ∉ composer.letters.letters)
    (source : σ) :
    composer.drawLetters letters source =
      ⟨.error (.unknownLetter letter), [], (template.draw source).2⟩ := by
  have missing : composer.letters.get? letter = none :=
    Option.eq_none_iff_forall_ne_some.mpr fun alphabet bound =>
      unbound (LetterTable.mem_letters_iff.mpr ⟨alphabet, bound⟩)
  rw [drawLetters, spelled, drawLettersFrom_append, drawLettersFrom_eq_drawSlots names,
    Template.draw_eq_drawSlots]
  simp only [Run.andThen, drawLettersFrom, missing]
  rfl

/-- Letters from which a text is drawn name a template. -/
theorem exists_names_of_drawLetters_eq_ok {composer : Composer} {letters text : String}
    {source : σ} (drawn : (composer.drawLetters letters source).result = .ok text) :
    ∃ template, composer.letters.Names letters.toList template ∧
      (template.draw source).1 = text := by
  rcases composer.letters.names_or_unbound letters.toList with
    ⟨template, names⟩ | ⟨before, letter, behind, template, spelled, names, unbound⟩
  · rw [drawLetters_of_names names] at drawn
    exact ⟨template, names, Except.ok.inj drawn⟩
  · rw [drawLetters_of_unbound spelled names unbound] at drawn
    cases drawn

/-- A text is drawn from letters by drawing from the template that has their alphabets, where all
letters are bound.  Otherwise the first letter that is not bound is named in the fault, and what is
left of the source is what the template of the letters before it leaves.  So letters are drawn from
one part after the other: the second part with what the first one leaves, and not at all after a
fault. -/
theorem drawLetters_looksUp (composer : Composer) (letters : String) (source : σ) :
    (∀ template, composer.letters.Names letters.toList template →
      composer.drawLetters letters source =
        ⟨.ok (template.draw source).1, [], (template.draw source).2⟩) ∧
    (∀ before letter behind template, letters.toList = before ++ letter :: behind →
      composer.letters.Names before template → letter ∉ composer.letters.letters →
      composer.drawLetters letters source =
        ⟨.error (.unknownLetter letter), [], (template.draw source).2⟩) ∧
    ((∀ letter ∈ letters.toList, letter ∈ composer.letters.letters) →
      ∃ template, composer.letters.Names letters.toList template) ∧
    ((¬ ∀ letter ∈ letters.toList, letter ∈ composer.letters.letters) →
      ∃ before letter behind template, letters.toList = before ++ letter :: behind ∧
        composer.letters.Names before template ∧ letter ∉ composer.letters.letters) ∧
    ∀ more : String, composer.drawLetters (letters ++ more) source =
      (composer.drawLetters letters source).andThen fun text rest =>
        (composer.drawLetters more rest).map (text ++ ·) := by
  have either := composer.letters.names_or_unbound letters.toList
  refine ⟨fun template names => drawLetters_of_names names source,
    fun before letter behind template spelled names unbound =>
      drawLetters_of_unbound spelled names unbound source, ?_, ?_, ?_⟩
  · intro bound
    refine either.resolve_right ?_
    rintro ⟨before, letter, behind, template, spelled, _, unbound⟩
    exact unbound (bound letter (by simp [spelled]))
  · intro notBound
    refine either.resolve_left ?_
    rintro ⟨template, names⟩
    exact notBound names.forall_mem_letters
  · intro more
    rw [drawLetters, String.toList_append, drawLettersFrom_append, ← drawLetters]
    congr
    funext text rest
    exact composer.drawLettersFrom_eq_map text more.toList rest

/-- Two letters that are bound, and between them and a third one a letter that has been removed. -/
theorem drawLetters_looksUp_of_removed :
    let words : CyclicWords := ⟨0x80000000, [0x40000000], []⟩
    let history := [('C', Alphabet.upper), ('h', .ofString "01"), ('n', .digit), ('C', ⟨#[]⟩)]
    let composer : Composer := { letters := (LetterTable.empty.setAll history).2 }
    let template : Template := ⟨#[⟨.ofString "01", 0⟩, ⟨.digit, 1⟩]⟩
    composer.letters.Names ['h', 'n'] template ∧ 'C' ∉ composer.letters.letters ∧
      composer.drawLetters "hn" words = ⟨.ok "12", [], words⟩ ∧
      composer.drawLetters "hnCh" words = ⟨.error (.unknownLetter 'C'), [], words⟩ ∧
      composer.drawLetters ("hn" ++ "h") words =
        (composer.drawLetters "h" words).map ("12" ++ ·) := by
  intro words history composer template
  have names : composer.letters.Names ['h', 'n'] template :=
    List.Forall₂.cons (by decide +kernel) (List.Forall₂.cons (by decide +kernel) .nil)
  have unbound : 'C' ∉ composer.letters.letters := by decide +kernel
  have drawn : template.draw words = ("12", words) := by decide +kernel
  obtain ⟨sampled, _, _, _, appended⟩ := drawLetters_looksUp composer "hn" words
  obtain ⟨_, stopped, _, _, _⟩ := drawLetters_looksUp composer "hnCh" words
  have text := sampled template names
  have fault := stopped ['h', 'n'] 'C' ['h'] template rfl names unbound
  rw [drawn] at text fault
  refine ⟨names, unbound, text, fault, ?_⟩
  rw [appended, text]
  simp only [Run.andThen, Run.prependRecords, List.nil_append]

end Composer

end PatternDraw
