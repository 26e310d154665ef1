import Mathlib.Data.List.Forall2
import Mathlib.Logic.Function.Iterate
import PatternDraw.Proofs.Compiling.Provenance
import PatternDraw.Proofs.Drawing.Language
import PatternDraw.Proofs.Entropy.Metering

/-!
# Templates that are used again

A template is compiled once and drawn from as often as wanted.  The texts have a character for each
slot, so they all have the same length, and each text starts from what the one before it has left
of the source.  A slot takes one word or two, and a slot with one candidate takes a single narrow
word.  The words are narrow if the alphabet has fewer than `2 ^ 32` candidates.  With `2 ^ 32` of
them the indices would still fit narrow words, but wide ones are drawn.
-/

namespace PatternDraw

variable {σ : Type} [EntropySource σ]

/-! ## Words that a character takes -/

namespace Alphabet

/-- To choose from the alphabet takes words of these sizes: one narrow word where there is only one
candidate, and otherwise one word or two of a size that holds the number of candidates. -/
inductive Takes (alphabet : Alphabet) : List WordSize → Prop
  | single (only : alphabet.size = 1) : Takes alphabet [.narrow]
  | several {size : WordSize} {words : List WordSize} (others : alphabet.size ≠ 1)
      (sized : size = if alphabet.size < 2 ^ 32 then .narrow else .wide)
      (oneOrTwo : words = [size] ∨ words = [size, size]) : Takes alphabet words

theorem Takes.length_between {alphabet : Alphabet} {words : List WordSize}
    (takes : alphabet.Takes words) : 1 ≤ words.length ∧ words.length ≤ 2 := by
  cases takes with
  | single => exact ⟨Nat.le_refl _, by decide⟩
  | several _ _ oneOrTwo => rcases oneOrTwo with rfl | rfl <;> simp

/-- Choosing from fewer than `2 ^ 32` candidates takes narrow words. -/
theorem Takes.eq_narrow {alphabet : Alphabet} {words : List WordSize}
    (takes : alphabet.Takes words) (small : alphabet.size < 2 ^ 32) :
    ∀ word ∈ words, word = .narrow := by
  cases takes with
  | single => simp
  | several _ sized oneOrTwo =>
      rw [if_pos small] at sized
      subst sized
      rcases oneOrTwo with rfl | rfl <;> simp

theorem extend_snd (alphabet : Alphabet) (text : String) (source : σ) :
    (alphabet.extend text source).2 = (Uniform.index alphabet.size source).2 := by
  unfold extend choose
  dsimp only
  cases alphabet.get? (Uniform.index alphabet.size source).1 <;> rfl

/-- A text is extended with words that its alphabet takes. -/
theorem exists_takes_extend (alphabet : Alphabet) (text : String) (source : σ) :
    ∃ words, alphabet.Takes words ∧
      (alphabet.extend text source).2 = afterWords words source := by
  rw [extend_snd]
  by_cases only : alphabet.size = 1
  · refine ⟨[.narrow], .single only, ?_⟩
    rw [only, Uniform.index_one]
    rfl
  · obtain ⟨words, oneOrTwo, left⟩ := Uniform.exists_words_index alphabet.size source
    exact ⟨words, .several only rfl oneOrTwo, left⟩

end Alphabet

/-! ## Words that a text takes -/

namespace Template

/-- To draw a text takes words of these sizes: in order, what each slot takes. -/
def Takes (template : Template) (words : List WordSize) : Prop :=
  ∃ each, List.Forall₂ (fun slot own => slot.alphabet.Takes own) template.toList each ∧
    words = each.flatten

/-- What is left of a source when a text has been drawn from it. -/
def rest (template : Template) (source : σ) : σ :=
  (template.draw source).2

theorem rest_single (slot : Slot) (source : σ) :
    (⟨#[slot]⟩ : Template).rest source = (Uniform.index slot.alphabet.size source).2 := by
  rw [rest, draw_eq_drawSlots]
  exact slot.alphabet.extend_snd "" source

theorem exists_takes_drawSlots (slots : List Slot) (text : String) (source : σ) :
    ∃ each, List.Forall₂ (fun slot own => slot.alphabet.Takes own) slots each ∧
      (drawSlots slots text source).2 = afterWords each.flatten source := by
  induction slots generalizing text source with
  | nil => exact ⟨[], .nil, rfl⟩
  | cons slot slots ih =>
      obtain ⟨own, ownTakes, ownLeft⟩ := slot.alphabet.exists_takes_extend text source
      obtain ⟨each, takes, left⟩ :=
        ih (slot.alphabet.extend text source).1 (slot.alphabet.extend text source).2
      refine ⟨own :: each, .cons ownTakes takes, ?_⟩
      rw [List.flatten_cons, afterWords_append, ← ownLeft, drawSlots_cons, left]

/-- What a text leaves of a source is what the words leave that it takes. -/
theorem exists_takes_rest (template : Template) (source : σ) :
    ∃ words, template.Takes words ∧ template.rest source = afterWords words source := by
  obtain ⟨each, takes, left⟩ := exists_takes_drawSlots template.toList "" source
  refine ⟨each.flatten, ⟨each, takes, rfl⟩, ?_⟩
  rw [rest, draw_eq_drawSlots, left]

/-- A text takes one word or two for each slot. -/
theorem Takes.length_between {template : Template} {words : List WordSize}
    (takes : template.Takes words) :
    template.size ≤ words.length ∧ words.length ≤ 2 * template.size := by
  obtain ⟨each, takes, rfl⟩ := takes
  rw [← template.length_toList]
  generalize template.toList = slots at takes ⊢
  induction takes with
  | nil => exact ⟨Nat.le_refl _, Nat.le_refl _⟩
  | cons own _ ih =>
      have here := own.length_between
      rw [List.flatten_cons, List.length_append, List.length_cons]
      omega

/-- A text takes narrow words if all alphabets are smaller than their range. -/
theorem Takes.eq_narrow {template : Template} {words : List WordSize}
    (takes : template.Takes words) (small : ∀ slot ∈ template.toList, slot.alphabet.size < 2 ^ 32) :
    ∀ word ∈ words, word = .narrow := by
  obtain ⟨each, takes, rfl⟩ := takes
  generalize template.toList = slots at takes small
  induction takes with
  | nil => simp
  | cons own _ ih =>
      obtain ⟨here, behind⟩ := List.forall_mem_cons.mp small
      rw [List.flatten_cons, List.forall_mem_append]
      exact ⟨own.eq_narrow here, ih behind⟩

/-- A metered source counts one narrow draw or two for each slot, and no wide one, if all alphabets
are smaller than the range of narrow words. -/
theorem rest_draws (template : Template)
    (small : ∀ slot ∈ template.toList, slot.alphabet.size < 2 ^ 32) (meter : Metered σ) :
    meter.narrowDraws + template.size ≤ (template.rest meter).narrowDraws ∧
      (template.rest meter).narrowDraws ≤ meter.narrowDraws + 2 * template.size ∧
      (template.rest meter).wideDraws = meter.wideDraws := by
  obtain ⟨words, takes, left⟩ := template.exists_takes_rest meter
  obtain ⟨narrow, wide⟩ := Metered.afterWords_draws words meter
  have allNarrow := takes.eq_narrow small
  have counted : words.count .narrow = words.length :=
    List.count_eq_length.mpr fun word member => (allNarrow word member).symm
  have noWide : words.count .wide = 0 :=
    List.count_eq_zero.mpr fun member => WordSize.noConfusion (allNarrow _ member)
  obtain ⟨least, greatest⟩ := takes.length_between
  rw [left, narrow, wide, counted, noWide]
  omega

/-! ## Rows of texts -/

/-- A row of texts is drawn text by text, each with what the one before it has left. -/
theorem drawMany_eq (template : Template) (count : Nat) (source : σ) :
    template.drawMany count source =
      ((List.range count).map fun turn => (template.draw (template.rest^[turn] source)).1,
        template.rest^[count] source) := by
  induction count generalizing source with
  | zero => rfl
  | succ count ih =>
      have behind := ih (template.rest source)
      rw [rest] at behind
      rw [drawMany]
      dsimp only
      rw [behind, List.range_succ_eq_map, List.map_cons, List.map_map]
      rfl

/-- The texts of joined templates are texts of the first one followed by texts of the second. -/
theorem draw_append (first second : Template) (source : σ) :
    (⟨first.slots ++ second.slots⟩ : Template).draw source =
      ((first.draw source).1 ++ (second.draw (first.rest source)).1,
        second.rest (first.rest source)) := by
  have joined : (⟨first.slots ++ second.slots⟩ : Template).toList =
      first.toList ++ second.toList := Array.toList_append
  simp only [rest, draw_eq_drawSlots, joined, drawSlots_append]
  rw [drawSlots_eq_append]

end Template

/-! ## Compiled templates -/

namespace Compilation

/-- The alphabets of a pattern of up to `2 ^ 11` characters are smaller than the range of narrow
words. -/
theorem size_lt_of_ofPattern_eq_ok {limits : Limits} {pattern : String} {source : σ}
    {template : Template} (compiled : (ofPattern limits pattern source).outcome = .ok template)
    (short : pattern.toList.length ≤ 2 ^ 11) :
    ∀ slot ∈ template.toList, slot.alphabet.size < 2 ^ 32 := by
  obtain ⟨constructs, splits, realizes, _⟩ := exists_of_ofPattern_eq_ok compiled
  refine realizes.forall_slots ?_ (by simp)
  intro offset part member
  calc
    part.alphabet.size ≤ pattern.toList.length * 0x110000 :=
      splits.size_alphabet_le (construct_mem_of_mem_place member)
    _ ≤ 2 ^ 11 * 0x110000 := Nat.mul_le_mul_right _ short
    _ < 2 ^ 32 := by decide

variable {τ : Type} [EntropySource τ]

/-- A compiled template is used again with any source: each text is drawn from what the one before
it has left, and has one character for each slot, a candidate of it.  A text takes one word or two
for each slot, in order.  All of them are narrow if all alphabets are smaller than the range of
narrow words, as is so for patterns of up to `2 ^ 11` characters.  Joined templates draw a text of
the first one and then, from what that has left, a text of the second one. -/
theorem ofPattern_reusable {limits : Limits} {pattern : String} {start : τ} {template : Template}
    (compiled : (ofPattern limits pattern start).outcome = .ok template) :
    (∀ (count : Nat) (source : σ),
      template.drawMany count source =
        ((List.range count).map fun turn => (template.draw (template.rest^[turn] source)).1,
          template.rest^[count] source) ∧
      ∀ text ∈ (template.drawMany count source).1, text.length = template.size ∧
        List.Forall₂ (fun ch slot => ch ∈ slot.alphabet) text.toList template.toList) ∧
    (∀ source : σ, ∃ words, template.Takes words ∧
      template.rest source = afterWords words source ∧
      template.size ≤ words.length ∧ words.length ≤ 2 * template.size) ∧
    ((∀ slot ∈ template.toList, slot.alphabet.size < 2 ^ 32) → ∀ meter : Metered σ,
      meter.narrowDraws + template.size ≤ (template.rest meter).narrowDraws ∧
        (template.rest meter).narrowDraws ≤ meter.narrowDraws + 2 * template.size ∧
        (template.rest meter).wideDraws = meter.wideDraws) ∧
    (pattern.toList.length ≤ 2 ^ 11 →
      ∀ slot ∈ template.toList, slot.alphabet.size < 2 ^ 32) ∧
    ∀ (first second : Template) (source : σ),
      (⟨first.slots ++ second.slots⟩ : Template).draw source =
        ((first.draw source).1 ++ (second.draw (first.rest source)).1,
          second.rest (first.rest source)) := by
  refine ⟨?_, ?_, fun small meter => template.rest_draws small meter,
    size_lt_of_ofPattern_eq_ok compiled, Template.draw_append⟩
  · intro count source
    have row := template.drawMany_eq count source
    refine ⟨row, fun text member => ?_⟩
    rw [row] at member
    obtain ⟨turn, _, rfl⟩ := List.mem_map.mp member
    have members := Template.forall₂_mem_draw (size_pos_of_ofPattern_eq_ok compiled)
      (template.rest^[turn] source)
    refine ⟨?_, members⟩
    rw [← String.length_toList, members.length_eq, template.length_toList]
  · intro source
    obtain ⟨words, takes, left⟩ := template.exists_takes_rest source
    exact ⟨words, takes, left, takes.length_between⟩

/-- Three texts in a row from a template with a choice and two slots without one. -/
theorem ofPattern_reusable_of_choice :
    let words : CyclicWords := ⟨0, [0x80000000], []⟩
    let meter : Metered CyclicWords := ⟨words, 0, 0⟩
    let template : Template := ⟨#[⟨.ofString "ab", 0⟩, ⟨.single 'x', 4⟩, ⟨.single 'x', 4⟩]⟩
    (ofPattern {} "[ab]x\x7b2\x7d" words).outcome = .ok template ∧
      template.drawMany 3 words = (["axx", "bxx", "axx"], template.rest^[3] words) ∧
      (∀ text ∈ (template.drawMany 3 words).1, text.length = template.size) ∧
      "[ab]x\x7b2\x7d".toList.length ≤ 2 ^ 11 ∧
      (∀ slot ∈ template.toList, slot.alphabet.size < 2 ^ 32) ∧
      3 ≤ (template.rest meter).narrowDraws ∧ (template.rest meter).narrowDraws ≤ 6 ∧
      (template.rest meter).wideDraws = 0 := by
  intro words meter template
  have compiled : (ofPattern {} "[ab]x\x7b2\x7d" words).outcome = .ok template := by
    decide +kernel
  have texts : (template.drawMany 3 words).1 = ["axx", "bxx", "axx"] := by decide +kernel
  have short : "[ab]x\x7b2\x7d".toList.length ≤ 2 ^ 11 := by decide
  obtain ⟨rows, _, metered, sizes, _⟩ := @ofPattern_reusable CyclicWords _ _ _ _ _ _ _ compiled
  obtain ⟨row, members⟩ := rows 3 words
  obtain ⟨least, greatest, noWide⟩ := metered (sizes short) meter
  refine ⟨compiled, ?_, fun text member => (members text member).1, short, sizes short, ?_⟩
  · have left := congrArg Prod.snd row
    exact Prod.ext texts left
  · rw [Nat.zero_add] at least greatest
    exact ⟨least, greatest, noWide⟩

/-- With `2 ^ 32` candidates a wide word is drawn, although narrow words have as many values: the
characters beyond U+FFFF, listed `2 ^ 12` times in one bracket. -/
theorem wide_rest_of_ranges :
    let words : CyclicWords := ⟨0, [], []⟩
    let meter : Metered CyclicWords := ⟨words, 0, 0⟩
    let body := (List.replicate 0x1000 [Char.ofNat 0x10000, '-', Char.ofNat 0x10ffff]).flatten
    let template : Template := ⟨#[⟨Bracket.alphabet body, 0⟩]⟩
    (ofPattern {} (String.ofList ('[' :: body ++ [']'])) words).outcome = .ok template ∧
      template.size = 1 ∧
      (∀ slot ∈ template.toList, slot.alphabet.size = 2 ^ 32) ∧
      (template.rest meter).narrowDraws = 0 ∧
      (template.rest meter).wideDraws = 1 := by
  intro words meter body template
  have size : (Bracket.alphabet body).size = 2 ^ 32 :=
    Bracket.size_alphabet_ranges (by decide) (by decide) (by decide) 0x1000
  have stands : (Atom.bracket body).StandsBefore [] :=
    Atom.standsBefore_ranges (by decide) (by decide) (by decide) []
  have compiled : ofPattern {} (String.ofList ('[' :: body ++ [']'])) words = _ :=
    ofPattern_text stands {} words
  have left : template.rest meter = ⟨words, 0, 1⟩ := by
    have zero : Uniform.drawWord (.ofUpper (2 ^ 32)) meter = (0, ⟨words, 0, 1⟩) := rfl
    rw [Template.rest_single, size, Uniform.index_of_drawWord_zero zero]
  refine ⟨congrArg outcome compiled, rfl, ?_, congrArg Metered.narrowDraws left,
    congrArg Metered.wideDraws left⟩
  intro slot member
  rw [List.mem_singleton.mp member, size]

end Compilation

end PatternDraw
