import Mathlib.Data.List.Forall2
import PatternDraw.Composer
import PatternDraw.Proofs.Compiling.AtomRows
import PatternDraw.Proofs.Drawing.Language
import PatternDraw.Proofs.Entropy.Metering
import PatternDraw.Proofs.Text.SingleBytes

/-!
# Spellings of a text

Every text can be written as a pattern that draws just this text.  Each of its characters is
spelled on its own: as itself, behind a backslash, between brackets or by its code point in
hexadecimal.  Spellings never merge with what stands beside them, so they can be mixed at will.
-/

namespace PatternDraw

/-! ## One character -/

/-- A hexadecimal digit, in either case, of a value below 16. -/
def IsHexDigit (digit : Char) (value : Nat) : Prop :=
  value < 16 ∧ (digit = value.digitChar ∨ digit = value.digitChar.toUpper)

/-- The texts that stand for a single character in a pattern. -/
inductive Spells (ch : Char) : List Char → Prop
  | itself (plain : ch ∉ openers) : Spells ch [ch]
  | escaped (unused : ch ∉ escapeLetters) : Spells ch ['\\', ch]
  | bracketed (inside : ch ≠ ']') : Spells ch ['[', ch, ']']
  | hexadecimal {high low : Char} {upper lower : Nat} (highDigit : IsHexDigit high upper)
      (lowDigit : IsHexDigit low lower) (point : ch.toNat = 16 * upper + lower) :
      Spells ch ['\\', 'x', high, low]

theorem hexDigit?_of_isHexDigit {digit : Char} {value : Nat} (spelled : IsHexDigit digit value) :
    hexDigit? digit = some value := by
  have capitals : ∀ value < 16, hexDigit? value.digitChar.toUpper = some value := by decide
  obtain ⟨bound, rfl | rfl⟩ := spelled
  · exact hexDigit?_digitChar bound
  · exact capitals value bound

theorem Shorthand.ofChar?_of_not_mem {ch : Char} (unused : ch ∉ escapeLetters) :
    ofChar? ch = none := by
  unfold ofChar?
  split <;> simp_all [escapeLetters]

/-- A spelling is an atom that stands anywhere and has its character as only candidate. -/
theorem Spells.exists_atom {ch : Char} {spelling : List Char} (spelled : Spells ch spelling) :
    ∃ part : Atom, part.text = spelling ∧ (∀ rest, part.StandsBefore rest) ∧
      part.alphabet = .single ch := by
  cases spelled with
  | itself plain => exact ⟨.literal ch, rfl, fun _ => .inl plain, rfl⟩
  | escaped unused =>
      have other : ch ≠ 'x' := by
        rintro rfl
        exact unused List.mem_cons_self
      refine ⟨.escape ch, rfl, fun _ => other, ?_⟩
      rw [Atom.alphabet, Shorthand.ofChar?_of_not_mem unused]
  | bracketed inside =>
      have body : [ch] ≠ [] ∧ ']' ∉ [ch] :=
        ⟨List.cons_ne_nil _ _, by simpa using Ne.symm inside⟩
      exact ⟨.bracket [ch], rfl, fun _ => body, rfl⟩
  | @hexadecimal high low upper lower highDigit lowDigit point =>
      have highValue := hexDigit?_of_isHexDigit highDigit
      have lowValue := hexDigit?_of_isHexDigit lowDigit
      have digits : (hexDigit? high).isSome ∧ (hexDigit? low).isSome := by
        rw [highValue, lowValue]
        exact ⟨rfl, rfl⟩
      refine ⟨.hexEscape high low, rfl, fun _ => digits, ?_⟩
      rw [Atom.alphabet, Atom.hexChar, highValue, lowValue]
      simp only [Option.getD_some, ← point, Char.ofNat_toNat]

/-! ## A text -/

/-- The pattern spells the characters of the text one after the other. -/
def IsSpelling (text pattern : String) : Prop :=
  ∃ spellings, List.Forall₂ Spells text.toList spellings ∧ pattern.toList = spellings.flatten

/-- Spellings in a row are a row of atoms. -/
theorem exists_atoms_of_spells {chars : List Char} {spellings : List (List Char)}
    (spelled : List.Forall₂ Spells chars spellings) :
    ∃ parts : List Atom, rowText parts = spellings.flatten ∧
      (∀ part ∈ parts, ∀ rest, part.StandsBefore rest) ∧
      parts.map Atom.alphabet = chars.map .single := by
  induction spelled with
  | nil => exact ⟨[], rfl, by simp, rfl⟩
  | @cons ch spelling chars spellings spelledHere _ ih =>
      obtain ⟨part, partText, partStands, partAlphabet⟩ := spelledHere.exists_atom
      obtain ⟨parts, textEq, stand, alphabets⟩ := ih
      refine ⟨part :: parts, ?_, List.forall_mem_cons.mpr ⟨partStands, stand⟩, ?_⟩
      · rw [rowText_cons, List.flatten_cons, partText, textEq]
      · rw [List.map_cons, List.map_cons, partAlphabet, alphabets]

variable {σ : Type} [EntropySource σ]

/-- Slots with one candidate each draw these candidates, with one narrow draw for each. -/
theorem Template.drawSlots_singles {parts : List Atom} {chars : List Char}
    (alphabets : parts.map Atom.alphabet = chars.map .single) (offset : Nat) (text : String)
    (source : σ) :
    drawSlots (slotsOf offset parts) text source =
      (chars.foldl String.push text, afterNarrow chars.length source) := by
  induction chars generalizing parts offset text source with
  | nil =>
      rw [List.map_nil, List.map_eq_nil_iff] at alphabets
      subst alphabets
      rfl
  | cons ch chars ih =>
      obtain ⟨part, rest, rfl, here, behind⟩ := List.map_eq_cons_iff.mp alphabets
      rw [slotsOf, drawSlots_cons, here, Alphabet.extend_single, ih behind]
      rfl

/-- A spelling of a text compiles without a draw, under all limits and with every source, to a
template that draws the text with one narrow draw for each of its characters. -/
theorem Compilation.exists_ofPattern_of_isSpelling {text pattern : String}
    (spelled : IsSpelling text pattern) (limits : Limits) (source : σ) :
    ∃ template warnings, ofPattern limits pattern source = ⟨.ok template, warnings, source⟩ ∧
      template.draw source = (text, afterNarrow text.length source) := by
  obtain ⟨spellings, characters, written⟩ := spelled
  obtain ⟨parts, textEq, stand, alphabets⟩ := exists_atoms_of_spells characters
  refine ⟨⟨(slotsOf 0 parts).toArray⟩, _,
    ofPattern_of_atoms (written.trans textEq.symm) stand limits source, ?_⟩
  have same : text.toList.foldl String.push "" = text := by
    rw [← String.toList_inj, Template.toList_foldl_push]
    simp
  rw [Template.draw_eq_drawSlots, Template.toList]
  simp only
  rw [Template.drawSlots_singles alphabets, same, String.length_toList]

namespace Composer

/-- A text is drawn from each of its spellings, whatever the limits and the source are.  The
compilation draws nothing, and each character then takes one narrow draw.  If no character is
above U+00FF, then the text can be written with the code points of its characters as bytes. -/
theorem drawPattern_of_isSpelling (composer : Composer) {text pattern : String}
    (spelled : IsSpelling text pattern) (source : σ) :
    (∃ template,
      (composer.templateOf pattern source).result = .ok template ∧
        (composer.templateOf pattern source).source = source ∧
        template.draw source = (text, afterNarrow text.length source)) ∧
      (composer.drawPattern pattern source).result = .ok text ∧
      (composer.drawPattern pattern source).source = afterNarrow text.length source ∧
      (∀ meter : Metered σ,
        (composer.templateOf pattern meter).source = meter ∧
          (composer.drawPattern pattern meter).source.narrowDraws =
            meter.narrowDraws + text.length ∧
          (composer.drawPattern pattern meter).source.wideDraws = meter.wideDraws) ∧
      (Text.Latin1.IsNarrow text →
        ∃ bytes, Text.Latin1.encode? text = some bytes ∧
          bytes.toList.map UInt8.toNat = text.toList.map Char.toNat) := by
  obtain ⟨template, warnings, compiled, drawn⟩ :=
    Compilation.exists_ofPattern_of_isSpelling spelled composer.limits source
  obtain ⟨result, rest⟩ := drawPattern_of_ofPattern_eq_ok compiled
  rw [drawn] at result rest
  refine ⟨⟨template, ?_, ?_, drawn⟩, result, rest, ?_, ?_⟩
  · rw [templateOf, compiled]
  · rw [templateOf, compiled]
  · intro meter
    obtain ⟨_, _, compiled, drawn⟩ :=
      Compilation.exists_ofPattern_of_isSpelling spelled composer.limits meter
    obtain ⟨_, rest⟩ := drawPattern_of_ofPattern_eq_ok compiled
    rw [drawn] at rest
    refine ⟨?_, ?_⟩
    · rw [templateOf, compiled]
    · rw [rest]
      exact Metered.afterNarrow_draws text.length meter
  · intro narrow
    obtain ⟨bytes, encoded⟩ := Text.Latin1.exists_encode?_eq_some narrow
    exact ⟨bytes, encoded, (Text.Latin1.encode?_eq_some_iff.mp encoded).symm⟩

/-- The four spellings in one pattern, with characters that mean something elsewhere. -/
theorem drawPattern_mixedSpelling :
    IsSpelling "-.]*\xff" "-[.]\\]\\*\\xfF" ∧
      (({} : Composer).drawPattern "-[.]\\]\\*\\xfF" (⟨7, [], []⟩ : CyclicWords)).result =
        .ok "-.]*\xff" := by
  have characters : "-.]*\xff".toList = ['-', '.', ']', '*', '\xff'] := rfl
  have small : IsHexDigit 'f' 15 := ⟨by decide, .inl rfl⟩
  have capital : IsHexDigit 'F' 15 := ⟨by decide, .inr rfl⟩
  have spelled : IsSpelling "-.]*\xff" "-[.]\\]\\*\\xfF" := by
    refine ⟨[['-'], ['[', '.', ']'], ['\\', ']'], ['\\', '*'], ['\\', 'x', 'f', 'F']], ?_, rfl⟩
    rw [characters]
    exact .cons (.itself (by decide)) (.cons (.bracketed (by decide))
      (.cons (.escaped (by decide)) (.cons (.escaped (by decide))
        (.cons (.hexadecimal small capital rfl) .nil))))
  have drawn := drawPattern_of_isSpelling {} spelled (⟨7, [], []⟩ : CyclicWords)
  exact ⟨spelled, drawn.2.1⟩

end Composer

end PatternDraw
