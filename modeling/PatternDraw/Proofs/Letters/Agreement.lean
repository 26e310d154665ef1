import Mathlib.Data.List.Forall2
import PatternDraw.Entropy.Cyclic
import PatternDraw.Proofs.Compiling.AtomRows
import PatternDraw.Proofs.Drawing.Language
import PatternDraw.Proofs.Letters.Bindings

/-!
# Usual letters as patterns

Each usual letter has a translation: a pattern of one atom that lists the same characters in the
same order.  A letter pattern and its translation therefore draw the same text with the same
draws, although one looks its alphabets up and the other one reads them from the pattern.
-/

namespace PatternDraw

open Compilation

variable {σ : Type} [EntropySource σ]

/-! ## Letters as slots -/

/-- Bound letters draw what slots with the bound alphabets draw. -/
theorem Composer.drawLettersFrom_eq_drawSlots {composer : Composer} {letters : List Char}
    {slots : List Slot}
    (bound : List.Forall₂ (fun letter slot => composer.letters.get? letter = some slot.alphabet)
      letters slots) (drawn : String) (source : σ) :
    composer.drawLettersFrom drawn letters source =
      ⟨.ok (Template.drawSlots slots drawn source).1, [],
        (Template.drawSlots slots drawn source).2⟩ := by
  induction bound generalizing drawn source with
  | nil => rfl
  | @cons letter slot letters slots here _ ih =>
      rw [Template.drawSlots_cons, drawLettersFrom, here]
      exact ih (slot.alphabet.extend drawn source).1 (slot.alphabet.extend drawn source).2

/-! ## Translations -/

/-- The pattern that says what a usual letter says. -/
def translateLetter : Char → String
  | 'C' => "[A-Z]"
  | 'c' => "[a-z]"
  | 'n' => "\\d"
  | '!' => "[!-/:-@[-`\x7b-~]"
  | '.' => "."
  | 's' => "[A-Za-z0-9./]"
  | 'b' => "[\x00-\u00ff]"
  | _ => ""

/-- The pattern that says what a row of usual letters says. -/
def translate (letters : String) : String :=
  String.join (letters.toList.map translateLetter)

/-- The atom is the translation of the letter, and it says the same. -/
structure Renders (letter : Char) (part : Atom) : Prop where
  text_eq : part.text = (translateLetter letter).toList
  stands : ∀ rest, part.StandsBefore rest
  bound : LetterTable.standard.get? letter = some part.alphabet

theorem letters_standard :
    LetterTable.standard.letters = ['!', '.', 'C', 'b', 'c', 'n', 's'] := by
  rw [LetterTable.letters, LetterTable.bindings_standard]
  rfl

/-- A bracket with one range lists the interval between its ends. -/
theorem Bracket.alphabet_range {first last : Char} (ordered : first ≤ last) :
    alphabet [first, '-', last] = .interval first.toNat last.toNat := by
  refine Alphabet.toList_injective ?_
  have length : last.toNat + 1 - first.toNat = last.toNat - first.toNat + 1 :=
    Nat.succ_sub ordered
  have here : Text.scalar? first.toNat = some first := Text.scalar?_eq_some_iff.mpr rfl
  calc
    (alphabet [first, '-', last]).toList =
        (Text.appendInterval #[first] (first.toNat + 1) last.toNat).toList := rfl
    _ = first :: (List.range' (first.toNat + 1)
          (last.toNat - first.toNat)).filterMap Text.scalar? := by
      rw [Text.appendInterval, Text.toList_appendRun, Nat.add_sub_add_right]
      rfl
    _ = (Alphabet.interval first.toNat last.toNat).toList := by
      rw [Alphabet.toList_interval, length, List.range'_succ, List.filterMap_cons, here]

theorem renders_bracket {letter : Char} {body : List Char} {alphabet : Alphabet}
    (spelled : '[' :: body ++ [']'] = (translateLetter letter).toList)
    (proper : body ≠ [] ∧ ']' ∉ body) (same : Bracket.alphabet body = alphabet)
    (bound : LetterTable.standard.get? letter = some alphabet) :
    Renders letter (.bracket body) := by
  subst same
  exact ⟨spelled, fun _ => proper, bound⟩

/-- Every usual letter is translated to an atom that lists its alphabet: the ranges of a
bracket come to the same characters in the same order. -/
theorem exists_renders {letter : Char} (usual : letter ∈ LetterTable.standard.letters) :
    ∃ part, Renders letter part := by
  have bound : LetterTable.standard.get? letter = _ :=
    congrArg (LetterTable.find? letter) LetterTable.bindings_standard
  rw [letters_standard] at usual
  simp only [List.mem_cons, List.not_mem_nil, or_false] at usual
  rcases usual with rfl | rfl | rfl | rfl | rfl | rfl | rfl
  · have same : Bracket.alphabet "!-/:-@[-`\x7b-~".toList = .punctuation :=
      Alphabet.toList_injective (by decide +kernel)
    exact ⟨_, renders_bracket (by decide) (by decide) same bound⟩
  · exact ⟨.dot, rfl, fun _ => trivial, bound⟩
  · have same : Bracket.alphabet ['A', '-', 'Z'] = .upper :=
      Bracket.alphabet_range (by decide : 'A' ≤ 'Z')
    exact ⟨_, renders_bracket (by decide) (by decide) same bound⟩
  · have same : Bracket.alphabet ['\x00', '-', '\u00ff'] = .bytes :=
      Bracket.alphabet_range (by decide : '\x00' ≤ '\u00ff')
    exact ⟨_, renders_bracket (by decide) (by decide) same bound⟩
  · have same : Bracket.alphabet ['a', '-', 'z'] = .lower :=
      Bracket.alphabet_range (by decide : 'a' ≤ 'z')
    exact ⟨_, renders_bracket (by decide) (by decide) same bound⟩
  · have proper : 'd' ≠ 'x' := by decide
    exact ⟨.escape 'd', by decide, fun _ => proper, bound⟩
  · have same : Bracket.alphabet "A-Za-z0-9./".toList = .salt :=
      Alphabet.toList_injective (by decide +kernel)
    exact ⟨_, renders_bracket (by decide) (by decide) same bound⟩

theorem exists_forall₂_renders {letters : List Char}
    (usual : ∀ letter ∈ letters, letter ∈ LetterTable.standard.letters) :
    ∃ parts, List.Forall₂ Renders letters parts := by
  induction letters with
  | nil => exact ⟨[], .nil⟩
  | cons letter rest ih =>
      obtain ⟨part, renders⟩ := exists_renders (usual letter List.mem_cons_self)
      obtain ⟨parts, rendered⟩ := ih fun other member => usual other (List.mem_cons_of_mem _ member)
      exact ⟨part :: parts, .cons renders rendered⟩

theorem rowText_eq_flatMap_of_renders {letters : List Char} {parts : List Atom}
    (rendered : List.Forall₂ Renders letters parts) :
    rowText parts = letters.flatMap fun letter => (translateLetter letter).toList := by
  induction rendered with
  | nil => rfl
  | cons renders _ ih => rw [rowText_cons, List.flatMap_cons, renders.text_eq, ih]

theorem stands_of_renders {letters : List Char} {parts : List Atom}
    (rendered : List.Forall₂ Renders letters parts) :
    ∀ part ∈ parts, ∀ rest, part.StandsBefore rest := by
  induction rendered with
  | nil =>
      intro part member
      exact absurd member List.not_mem_nil
  | cons renders _ ih =>
      intro part member
      rcases List.mem_cons.mp member with rfl | behind
      · exact renders.stands
      · exact ih part behind

/-- The alphabets of the slots are those to which the letters are bound. -/
theorem bound_of_renders {letters : List Char} {parts : List Atom}
    (rendered : List.Forall₂ Renders letters parts) (offset : Nat) :
    List.Forall₂ (fun letter slot => LetterTable.standard.get? letter = some slot.alphabet)
      letters (slotsOf offset parts) := by
  induction rendered generalizing offset with
  | nil => exact .nil
  | cons renders _ ih => exact .cons renders.bound (ih _)

theorem toList_translate (letters : String) :
    (translate letters).toList =
      letters.toList.flatMap fun letter => (translateLetter letter).toList := by
  rw [translate, String.toList_join, List.flatMap_map]

/-! ## Agreement -/

namespace Composer

/-- A pattern of usual letters and its translation draw the same text, whatever the limits for
quantifiers are, and leave the same of the source.  The source is of any type, in particular one
that keeps account of its draws. -/
theorem drawLetters_agrees_with_translate (limits : Limits) (letters : String)
    (usual : ∀ letter ∈ letters.toList, letter ∈ LetterTable.standard.letters) (source : σ) :
    ∃ text rest,
      (withLimits limits).drawLetters letters source = ⟨.ok text, [], rest⟩ ∧
      ((withLimits limits).drawPattern (translate letters) source).result = .ok text ∧
      ((withLimits limits).drawPattern (translate letters) source).source = rest := by
  obtain ⟨parts, rendered⟩ := exists_forall₂_renders usual
  have spelled : (translate letters).toList = rowText parts := by
    rw [toList_translate, rowText_eq_flatMap_of_renders rendered]
  have compiled := ofPattern_of_atoms spelled (stands_of_renders rendered)
    (withLimits limits).limits source
  have table : (withLimits limits).letters = .standard := by rw [withLimits]
  have bound : List.Forall₂
      (fun letter slot => (withLimits limits).letters.get? letter = some slot.alphabet)
      letters.toList (slotsOf 0 parts) := by
    rw [table]
    exact bound_of_renders rendered 0
  have drawn : (withLimits limits).drawLetters letters source = _ :=
    drawLettersFrom_eq_drawSlots bound "" source
  obtain ⟨result, rest⟩ := drawPattern_of_ofPattern_eq_ok compiled
  rw [Template.draw_eq_drawSlots] at result rest
  exact ⟨_, _, drawn, result, rest⟩

/-- A capital, a punctuation character and a byte, drawn from two words in turn. -/
theorem capital_punctuation_byte_agreement :
    let words : CyclicWords := ⟨0x80000000, [0x40000000], []⟩
    (∀ letter ∈ "C!b".toList, letter ∈ LetterTable.standard.letters) ∧
      translate "C!b" = "[A-Z][!-/:-@[-`\x7b-~][\x00-\u00ff]" ∧
      ∃ text rest,
        (withLimits {}).drawLetters "C!b" words = ⟨.ok text, [], rest⟩ ∧
        ((withLimits {}).drawPattern (translate "C!b") words).result = .ok text ∧
        ((withLimits {}).drawPattern (translate "C!b") words).source = rest := by
  intro words
  have usual : ∀ letter ∈ "C!b".toList, letter ∈ LetterTable.standard.letters := by
    simp [letters_standard]
  exact ⟨usual, by decide +kernel, drawLetters_agrees_with_translate {} "C!b" usual words⟩

end Composer

end PatternDraw
