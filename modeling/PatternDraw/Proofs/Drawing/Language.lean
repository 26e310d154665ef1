import Mathlib.Computability.Language
import PatternDraw.Composer
import PatternDraw.Proofs.Compiling.Denotation
import PatternDraw.Proofs.Drawing.Candidates
import PatternDraw.Proofs.Drawing.Texts

/-!
# The language of a pattern

The texts that can be drawn from a pattern are those of its language: split the pattern, take
for every quantifier any number within its bounds, and for every slot that remains any member
of its alphabet.  No source draws anything else, and for each of these texts there is a list of
words from which it is drawn.
-/

namespace PatternDraw

open Compilation CyclicWords

variable {σ : Type} [EntropySource σ]

/-- The texts that a pattern stands for. -/
def language (limits : Limits) (pattern : List Char) : Language Char :=
  {text | ∃ constructs counts slots, Splits pattern constructs ∧
    Realizes limits 0 constructs [] counts slots ∧
    List.Forall₂ (fun ch slot => ch ∈ slot.alphabet) text slots}

/-- The alphabets of a pattern can be held in memory: their sizes are 64-bit numbers. -/
def Addressable (pattern : List Char) : Prop :=
  ∀ constructs part, Splits pattern constructs → .atom part ∈ constructs →
    part.alphabet.size ≤ 2 ^ 64

/-- The alphabet of an atom is not larger than the length of its pattern allows. -/
theorem Splits.size_alphabet_le {pattern : List Char} {constructs : List Construct} {part : Atom}
    (splits : Splits pattern constructs) (member : .atom part ∈ constructs) :
    part.alphabet.size ≤ pattern.length * 0x110000 := by
  have within : part.text.length ≤ pattern.length := (splits.stands member).2
  exact Nat.le_trans part.size_alphabet_le (Nat.mul_le_mul_right _ within)

/-- A pattern of up to `2 ^ 43` characters is too short for larger alphabets. -/
theorem addressable_of_length_le {pattern : List Char} (short : pattern.length ≤ 2 ^ 43) :
    Addressable pattern := by
  intro constructs part splits member
  calc
    part.alphabet.size ≤ pattern.length * 0x110000 := splits.size_alphabet_le member
    _ ≤ 2 ^ 43 * 0x110000 := Nat.mul_le_mul_right _ short
    _ ≤ 2 ^ 64 := by decide

/-! ## Counts -/

namespace Compilation

theorem reachable_chooseCount {lower upper count : Nat} (wide : upper < 2 ^ 64)
    (least : lower ≤ count) (greatest : count ≤ upper) :
    Reachable (chooseCount lower upper) count := by
  by_cases single : lower = upper
  · have only : count = lower := by omega
    have nothing : (chooseCount lower upper : CyclicWords → Nat × CyclicWords) =
        fun source => (lower, source) := by
      funext source
      simp [chooseCount, single]
    rw [nothing, only]
    exact reachable_pure lower
  · have drawn : (chooseCount lower upper : CyclicWords → Nat × CyclicWords) =
        Uniform.between lower upper := by
      funext source
      simp [chooseCount, single]
    rw [drawn]
    exact Uniform.reachable_between wide least greatest

/-- All counts that realize something can be drawn together. -/
theorem reachable_drawnCounts {limits : Limits} (wide : limits.repeatLimit < 2 ^ 64)
    {offset : Nat} {constructs : List Construct} {slots result : List Slot} {counts : List Nat}
    (realizes : Realizes limits offset constructs slots counts result) :
    Reachable (drawnCounts limits constructs) counts := by
  induction realizes with
  | nil => exact reachable_pure []
  | atom _ ih => exact ih
  | @quantifier _ _ constructs _ _ _ count counts allowed least greatest _ ih =>
      have here := reachable_chooseCount (Nat.lt_of_le_of_lt allowed.2 wide) least greatest
      let next (count : Nat) (source : CyclicWords) : List Nat × CyclicWords :=
        (count :: (drawnCounts limits constructs source).1,
          (drawnCounts limits constructs source).2)
      have onward : Reachable (next count) (count :: counts) := ih.map (count :: ·)
      exact here.andThen next onward

/-! ## Candidates -/

/-- Every slot of a compiled template has candidates. -/
theorem size_pos_of_ofPattern_eq_ok {limits : Limits} {pattern : String} {source : σ}
    {template : Template} (compiled : (ofPattern limits pattern source).outcome = .ok template) :
    ∀ slot ∈ template.toList, 0 < slot.alphabet.size := by
  obtain ⟨constructs, splits, realizes, _⟩ := exists_of_ofPattern_eq_ok compiled
  refine realizes.forall_slots ?_ (by simp)
  intro offset part member
  obtain ⟨⟨rest, stands⟩, _⟩ := splits.stands (construct_mem_of_mem_place member)
  exact Atom.size_alphabet_pos stands

end Compilation

/-! ## Drawing from a pattern -/

namespace Composer

theorem result_drawPattern (composer : Composer) (pattern : String) (source : σ) :
    (composer.drawPattern pattern source).result =
      (ofPattern composer.limits pattern source).outcome.map fun template =>
        (template.draw (ofPattern composer.limits pattern source).source).1 := by
  unfold drawPattern templateOf Run.andThen
  dsimp only
  cases (ofPattern composer.limits pattern source).outcome <;> rfl

/-- A text is drawn from the template to which the pattern compiles. -/
theorem drawPattern_of_ofPattern_eq_ok {composer : Composer} {pattern : String} {source rest : σ}
    {template : Template} {warnings : List Warning}
    (compiled : ofPattern composer.limits pattern source = ⟨.ok template, warnings, rest⟩) :
    (composer.drawPattern pattern source).result = .ok (template.draw rest).1 ∧
      (composer.drawPattern pattern source).source = (template.draw rest).2 := by
  unfold drawPattern templateOf Run.andThen
  rw [compiled]
  exact ⟨rfl, rfl⟩

/-- Every source draws texts of the language only. -/
theorem mem_language_of_drawPattern {composer : Composer} {pattern text : String} {source : σ}
    (drawn : (composer.drawPattern pattern source).result = .ok text) :
    text.toList ∈ language composer.limits pattern.toList := by
  rw [result_drawPattern] at drawn
  cases compiled : (ofPattern composer.limits pattern source).outcome with
  | error fault =>
      rw [compiled] at drawn
      cases drawn
  | ok template =>
      rw [compiled] at drawn
      cases drawn
      obtain ⟨constructs, splits, realizes, _⟩ := exists_of_ofPattern_eq_ok compiled
      exact ⟨constructs, _, template.toList, splits, realizes,
        Template.forall₂_mem_draw (size_pos_of_ofPattern_eq_ok compiled) _⟩

/-- For every text of the language some words draw it. -/
theorem exists_drawPattern_of_mem_language {composer : Composer}
    (reservable : composer.limits.repeatLimit ≤ composer.limits.capacity) {pattern text : String}
    (addressable : Addressable pattern.toList)
    (member : text.toList ∈ language composer.limits pattern.toList) :
    ∃ first others,
      (composer.drawPattern pattern (⟨first, others, []⟩ : CyclicWords)).result = .ok text := by
  obtain ⟨constructs, counts, slots, splits, realizes, members⟩ := member
  have wide : composer.limits.repeatLimit < 2 ^ 64 :=
    Nat.lt_of_le_of_lt reservable composer.limits.capacity_lt
  have slotsAddressable : ∀ slot ∈ slots, slot.alphabet.size ≤ 2 ^ 64 := by
    refine realizes.forall_slots ?_ (by simp)
    intro offset part placed
    exact addressable constructs part splits (construct_mem_of_mem_place placed)
  obtain ⟨countWords, drawsCounts⟩ := reachable_drawnCounts wide realizes
  obtain ⟨textWords, drawsText⟩ := Template.reachable_drawSlots members slotsAddressable ""
  obtain ⟨first, others, rest, supplies⟩ := exists_supplies (countWords ++ textWords)
  obtain ⟨middle, countSupplies, textSupplies⟩ := supplies.append
  have counted := drawsCounts _ middle countSupplies
  have realizesDrawn : Realizes composer.limits 0 constructs []
      (drawnCounts composer.limits constructs (⟨first, others, []⟩ : CyclicWords)).1 slots := by
    rw [counted]
    exact realizes
  refine ⟨first, others, ?_⟩
  rw [result_drawPattern, ofPattern_of_realizes reservable splits realizesDrawn, counted]
  have textEq : text.toList.foldl String.push "" = text := by
    rw [← String.toList_inj, Template.toList_foldl_push]
    simp
  simp only [Except.map, Template.draw_eq_drawSlots, Template.toList,
    drawsText middle rest textSupplies, textEq]

/-- The texts that can be drawn from a pattern with some non-empty list of words are exactly
those of its language. -/
theorem exists_drawPattern_eq_ok_iff (composer : Composer)
    (reservable : composer.limits.repeatLimit ≤ composer.limits.capacity) (pattern text : String)
    (addressable : Addressable pattern.toList) :
    (∃ first others,
      (composer.drawPattern pattern (⟨first, others, []⟩ : CyclicWords)).result = .ok text) ↔
      text.toList ∈ language composer.limits pattern.toList := by
  constructor
  · rintro ⟨first, others, drawn⟩
    exact mem_language_of_drawPattern drawn
  · exact exists_drawPattern_of_mem_language reservable addressable

/-- Three words of the four choose among the candidates, the first one chooses their number. -/
theorem bab_mem_language :
    ({} : Composer).limits.repeatLimit ≤ ({} : Composer).limits.capacity ∧
      Addressable "[ab]\x7b1,3\x7d".toList ∧
      "bab".toList ∈ language {} "[ab]\x7b1,3\x7d".toList :=
  have short : Addressable "[ab]\x7b1,3\x7d".toList := addressable_of_length_le (by decide)
  ⟨by decide, short,
    (exists_drawPattern_eq_ok_iff {} (by decide) "[ab]\x7b1,3\x7d" "bab" short).mp
      ⟨0xffffffff, [0x80000000, 0, 0x80000000], by decide +kernel⟩⟩

end Composer

end PatternDraw
