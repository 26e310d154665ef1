import Mathlib.Data.List.Forall2
import PatternDraw.Entropy.Cyclic
import PatternDraw.Proofs.Compiling.Denotation

/-!
# The least counts are the worst case

Words that are all zero give every quantifier its least count.  Larger counts leave at least as
many slots, so a quantifier that meets a slot after the least counts meets one after any
counts: a pattern compiles with every source exactly if it compiles with zero words.
-/

namespace PatternDraw

open Compilation

/-- The source whose words are all zero. -/
def zeroWords : CyclicWords :=
  { first := 0, others := [] }

/-- The least count of every quantifier. -/
def leastCounts : List Construct → List Nat
  | [] => []
  | .atom _ :: rest => leastCounts rest
  | .quantifier part :: rest => part.bounds.lower :: leastCounts rest

namespace Compilation

theorem chooseCount_zeroWords (lower upper : Nat) :
    chooseCount lower upper zeroWords = (lower, zeroWords) := by
  have zero (size : WordSize) : Uniform.drawWord size zeroWords = (0, zeroWords) := by
    cases size <;> rfl
  unfold chooseCount
  split
  · rfl
  · exact Uniform.between_of_drawWord_zero (zero _)

/-- Zero words give every quantifier its least count. -/
theorem drawnCounts_zeroWords (limits : Limits) (constructs : List Construct) :
    drawnCounts limits constructs zeroWords = (leastCounts constructs, zeroWords) := by
  induction constructs with
  | nil => rfl
  | cons construct rest ih =>
      cases construct with
      | atom part => exact ih
      | quantifier part => simp only [drawnCounts, leastCounts, chooseCount_zeroWords, ih]

end Compilation

variable {σ : Type} [EntropySource σ]

/-- From at least as many slots, counts of a source that are not smaller realize what the given
counts realize, with at least as many slots in the end. -/
theorem Realizes.of_counts_le {limits : Limits} {offset : Nat} {constructs : List Construct}
    {slots result : List Slot} {counts : List Nat}
    (realizes : Realizes limits offset constructs slots counts result) {source : σ}
    (greaterCounts : List.Forall₂ (· ≤ ·) counts (drawnCounts limits constructs source).1)
    {more : List Slot} (longer : slots.length ≤ more.length) :
    ∃ greater, Realizes limits offset constructs more (drawnCounts limits constructs source).1
      greater ∧ result.length ≤ greater.length := by
  induction realizes generalizing more source with
  | nil offset slots => exact ⟨more, .nil offset more, longer⟩
  | @atom offset part constructs slots result counts _ ih =>
      let added : Slot := ⟨part.alphabet, offset⟩
      have longerHere : (slots ++ [added]).length ≤ (more ++ [added]).length := by
        simpa using longer
      obtain ⟨greater, greaterRealizes, longerResult⟩ := ih greaterCounts longerHere
      exact ⟨greater, .atom greaterRealizes, longerResult⟩
  | @quantifier offset part constructs before result slot count counts allowed least _ _ ih =>
      simp only [drawnCounts] at greaterCounts
      obtain ⟨greaterHere, greaterBehind⟩ := List.forall₂_cons.mp greaterCounts
      have nonempty : more ≠ [] := by
        rintro rfl
        simp at longer
      obtain ⟨moreBefore, moreSlot, rfl⟩ : ∃ before last, more = before ++ [last] :=
        ⟨_, _, (List.dropLast_concat_getLast nonempty).symm⟩
      have greatest := chooseCount_le_upper allowed.1 source
      have longerHere : (before ++ List.replicate count slot).length ≤
          (moreBefore ++ List.replicate (chooseCount part.bounds.lower
            (upperBound limits part.bounds) source).1 moreSlot).length := by
        simp only [List.length_append, List.length_replicate, List.length_cons,
          List.length_nil] at longer ⊢
        omega
      obtain ⟨greater, greaterRealizes, longerResult⟩ := ih greaterBehind longerHere
      exact ⟨greater, .quantifier allowed (Nat.le_trans least greaterHere) greatest
        greaterRealizes, longerResult⟩

/-- No source gives a quantifier less than its least count. -/
theorem leastCounts_le_drawnCounts (limits : Limits) (constructs : List Construct) (source : σ) :
    List.Forall₂ (· ≤ ·) (leastCounts constructs) (drawnCounts limits constructs source).1 := by
  induction constructs generalizing source with
  | nil => exact .nil
  | cons construct rest ih =>
      cases construct with
      | atom part => exact ih source
      | quantifier part => exact .cons (lower_le_chooseCount _ _ source) (ih _)

namespace Compilation

/-- What zero words compile, every source compiles: with the same warnings and at least as many
slots. -/
theorem exists_ofPattern_eq_ok_of_zeroWords {limits : Limits}
    (reservable : limits.repeatLimit ≤ limits.capacity) {pattern : String} {least : Template}
    (compiled : (ofPattern limits pattern zeroWords).outcome = .ok least) (source : σ) :
    ∃ template, (ofPattern limits pattern source).outcome = .ok template ∧
      (ofPattern limits pattern source).warnings =
        (ofPattern limits pattern zeroWords).warnings ∧
      least.size ≤ template.size := by
  obtain ⟨constructs, splits, realizes, compiledEq⟩ := exists_of_ofPattern_eq_ok compiled
  rw [drawnCounts_zeroWords] at realizes
  obtain ⟨greater, greaterRealizes, longer⟩ :=
    realizes.of_counts_le (leastCounts_le_drawnCounts limits constructs source) (Nat.le_refl _)
  rw [compiledEq, ofPattern_of_realizes reservable splits greaterRealizes]
  refine ⟨⟨greater.toArray⟩, rfl, rfl, ?_⟩
  rw [← Template.length_toList]
  exact longer

/-- Zero words give every quantifier its least count.  A pattern compiles with every source
exactly if it compiles with zero words, and then every source finds the warnings that zero words
find and gives at least as many slots. -/
theorem forall_ofPattern_eq_ok_iff_zeroWords (limits : Limits)
    (reservable : limits.repeatLimit ≤ limits.capacity) (pattern : String) :
    (∀ constructs, (drawnCounts limits constructs zeroWords).1 = leastCounts constructs) ∧
    ((∀ (τ : Type) [EntropySource τ] (source : τ),
        ∃ template, (ofPattern limits pattern source).outcome = .ok template) ↔
      ∃ least, (ofPattern limits pattern zeroWords).outcome = .ok least) ∧
    ∀ least, (ofPattern limits pattern zeroWords).outcome = .ok least →
      ∀ (τ : Type) [EntropySource τ] (source : τ),
        ∃ template, (ofPattern limits pattern source).outcome = .ok template ∧
          (ofPattern limits pattern source).warnings =
            (ofPattern limits pattern zeroWords).warnings ∧
          least.size ≤ template.size := by
  refine ⟨?_, ⟨?_, ?_⟩, ?_⟩
  · intro constructs
    rw [drawnCounts_zeroWords]
  · intro always
    exact always CyclicWords zeroWords
  · rintro ⟨least, compiled⟩ τ _ source
    obtain ⟨template, templateCompiled, _⟩ :=
      exists_ofPattern_eq_ok_of_zeroWords reservable compiled source
    exact ⟨template, templateCompiled⟩
  · intro least compiled τ _ source
    exact exists_ofPattern_eq_ok_of_zeroWords reservable compiled source

/-- Zero words leave two slots of `ab{1,2}c*`, so other words leave at least two. -/
theorem two_le_size_of_zeroWords :
    ({} : Limits).repeatLimit ≤ ({} : Limits).capacity ∧
      ∃ template,
        (ofPattern {} "ab\x7b1,2\x7dc*" (⟨0xffffffff, [5], []⟩ : CyclicWords)).outcome =
          .ok template ∧ 2 ≤ template.size := by
  have sizes := (forall_ofPattern_eq_ok_iff_zeroWords {} (by decide) "ab\x7b1,2\x7dc*").2.2
    ⟨#[⟨.single 'a', 0⟩, ⟨.single 'b', 1⟩]⟩ (by decide +kernel) CyclicWords ⟨0xffffffff, [5], []⟩
  obtain ⟨template, compiled, _, size⟩ := sizes
  exact ⟨by decide, template, compiled, size⟩

end Compilation

end PatternDraw
