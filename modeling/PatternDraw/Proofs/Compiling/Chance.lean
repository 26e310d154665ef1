import Mathlib.Data.List.Forall2
import PatternDraw.Proofs.Compiling.Ending
import PatternDraw.Proofs.Compiling.LeastCounts

/-!
# What chance can do to a pattern

Most faults of a pattern are its own.  Chance has a part in one of them only: a quantifier has
nothing to repeat if all slots before it were removed, and whether they are depends on the
counts drawn for the quantifiers before it.  A pattern that compiles with one source compiles
with every other one, or one of these quantifiers drew less and a later one is left with
nothing.
-/

namespace PatternDraw

open Compilation

variable {σ τ : Type} [EntropySource σ] [EntropySource τ]

/-! ## Counts -/

/-- There is one count for every quantifier, whatever the source. -/
theorem length_drawnCounts_eq (limits : Limits) (constructs : List Construct) (source : σ)
    (other : τ) :
    (drawnCounts limits constructs source).1.length =
      (drawnCounts limits constructs other).1.length := by
  induction constructs generalizing source other with
  | nil => rfl
  | cons construct rest ih =>
      cases construct with
      | atom part => exact ih source other
      | quantifier part => exact congrArg (· + 1) (ih _ _)

/-- Counts of one source are nowhere smaller than those of another one, or somewhere they are. -/
theorem drawnCounts_le_or_exists_lt (limits : Limits) (constructs : List Construct) (source : σ)
    (other : τ) :
    List.Forall₂ (· ≤ ·) (drawnCounts limits constructs source).1
        (drawnCounts limits constructs other).1 ∨
      ∃ count less, (count, less) ∈ (drawnCounts limits constructs source).1.zip
        (drawnCounts limits constructs other).1 ∧ less < count := by
  by_cases smaller : ∃ count less, (count, less) ∈ (drawnCounts limits constructs source).1.zip
      (drawnCounts limits constructs other).1 ∧ less < count
  · exact .inr smaller
  · left
    refine List.forall₂_iff_zip.mpr ⟨length_drawnCounts_eq limits constructs source other, ?_⟩
    intro count greater member
    by_contra less
    exact smaller ⟨count, greater, member, Nat.lt_of_not_le less⟩

namespace Compilation

/-! ## Two sources -/

/-- Where memory holds what the limit allows, an allowed quantifier is refused only if it has
nothing to repeat. -/
theorem Refusal.eq_dangling {limits : Limits}
    (reservable : limits.repeatLimit ≤ limits.capacity) {offset : Nat} {bounds : Bounds}
    {template : Template} {source rest : σ} {fault : Fault} (allowed : Allowed limits bounds)
    (refusal : Refusal limits offset bounds template source fault rest) :
    fault = .danglingQuantifier offset ∧ template.toList = [] := by
  cases refusal with
  | inverted inverted => exact absurd allowed.1 (Nat.not_le_of_lt inverted)
  | overLimit _ exceeds => exact absurd allowed.2 (Nat.not_le_of_lt exceeds)
  | dangling _ empty => exact ⟨rfl, empty⟩
  | overCapacity _ chosen exceeds =>
      have greatest := chooseCount_le_upper allowed.1 source
      rw [chosen] at greatest
      have held := Nat.le_trans greatest (Nat.le_trans allowed.2 reservable)
      exact absurd held (Nat.not_le_of_lt exceeds)

/-- Constructs that leave a slot with one source but none with another one have a quantifier for
which the other source drew less. -/
theorem exists_lt_of_no_slots {limits : Limits} {earlier : List Construct} {source : σ}
    {other : τ} {slots : List Slot}
    (leaves : Realizes limits 0 earlier [] (drawnCounts limits earlier source).1 slots)
    (nonempty : slots ≠ [])
    (leavesNone : Realizes limits 0 earlier [] (drawnCounts limits earlier other).1 []) :
    ∃ count less, (count, less) ∈
      (drawnCounts limits earlier source).1.zip (drawnCounts limits earlier other).1 ∧
      less < count := by
  rcases drawnCounts_le_or_exists_lt limits earlier source other with nowhereLess | smaller
  · obtain ⟨greater, greaterLeaves, longer⟩ :=
      leaves.of_counts_le nowhereLess (Nat.le_refl _)
    have same : greater = [] := greaterLeaves.unique leavesNone
    subst same
    exact absurd (List.eq_nil_of_length_eq_zero (Nat.le_zero.mp longer)) nonempty
  · exact smaller

/-- If a pattern compiles with one source, then with any other source it compiles as well, or it
comes to a quantifier that has nothing to repeat: all slots before it were removed, and for some
quantifier before it the other source drew a smaller count. -/
theorem ofPattern_eq_ok_or_dangling {limits : Limits}
    (reservable : limits.repeatLimit ≤ limits.capacity) {pattern : String} {source : σ}
    {template : Template} (compiled : (ofPattern limits pattern source).outcome = .ok template)
    (other : τ) :
    (∃ result, (ofPattern limits pattern other).outcome = .ok result) ∨
      ∃ earlier part later,
        Splits pattern.toList (earlier ++ .quantifier part :: later) ∧
        (ofPattern limits pattern other).outcome =
          .error (.danglingQuantifier (textOf earlier).length) ∧
        Realizes limits 0 earlier [] (drawnCounts limits earlier other).1 [] ∧
        ∃ count less, (count, less) ∈
          (drawnCounts limits earlier source).1.zip (drawnCounts limits earlier other).1 ∧
          less < count := by
  obtain ⟨constructs, splits, realizes, _⟩ := exists_of_ofPattern_eq_ok compiled
  have ending := ending_ofPattern limits pattern other
  rw [Scan.ofPattern_of_splits splits] at ending
  generalize ofPattern limits pattern other = compilation at ending ⊢
  cases ending with
  | complete whole taken => exact .inl ⟨_, rfl⟩
  | halted stopped taken => cases stopped
  | @refused before behind offset part reached middle rest fault located taken refusal =>
      obtain ⟨earlier, later, rfl, rfl, offsetEq⟩ := exists_of_place_eq_append_cons located
      obtain ⟨slots, counts, leaves, onward⟩ := realizes.of_append
      cases onward with
      | quantifier allowed _ _ _ =>
          obtain ⟨rfl, empty⟩ := refusal.eq_dangling reservable allowed
          have leavesNone := (realizes_of_ofPieces (congrArg Compilation.outcome taken)).1
          rw [empty, Template.toList_empty] at leavesNone
          rw [Nat.zero_add] at offsetEq
          refine .inr ⟨earlier, part, later, splits, ?_, leavesNone, ?_⟩
          · rw [show offset = (textOf earlier).length from offsetEq]
          · exact exists_lt_of_no_slots leaves (List.append_ne_nil_of_right_ne_nil _ (by simp))
              leavesNone

/-- Words that are all ones keep the slot of `a?` for the next quantifier, and words that are all
zero remove it. -/
theorem outcome_ofPattern_ones_and_zeros :
    ({} : Limits).repeatLimit ≤ ({} : Limits).capacity ∧
      (ofPattern {} "a?\x7b0\x7d" (⟨0xffffffff, [], []⟩ : CyclicWords)).outcome = .ok .empty ∧
      (ofPattern {} "a?\x7b0\x7d" zeroWords).outcome = .error (.danglingQuantifier 2) :=
  ⟨by decide, by decide +kernel, by decide +kernel⟩

/-- As `a?{0}` compiles with words that are all ones, zero words can make it fail only by drawing
less for its first quantifier. -/
theorem dangling_of_zeroWords :
    ({} : Limits).repeatLimit ≤ ({} : Limits).capacity ∧
      (ofPattern {} "a?\x7b0\x7d" (⟨0xffffffff, [], []⟩ : CyclicWords)).outcome = .ok .empty ∧
      ∃ earlier part later,
        Splits "a?\x7b0\x7d".toList (earlier ++ .quantifier part :: later) ∧
        (ofPattern {} "a?\x7b0\x7d" zeroWords).outcome =
          .error (.danglingQuantifier (textOf earlier).length) ∧
        Realizes {} 0 earlier [] (drawnCounts {} earlier zeroWords).1 [] ∧
        ∃ count less, (count, less) ∈
          (drawnCounts {} earlier (⟨0xffffffff, [], []⟩ : CyclicWords)).1.zip
            (drawnCounts {} earlier zeroWords).1 ∧ less < count := by
  have compiled : (ofPattern {} "a?\x7b0\x7d" (⟨0xffffffff, [], []⟩ : CyclicWords)).outcome =
      .ok .empty := by
    decide +kernel
  have failed : (ofPattern {} "a?\x7b0\x7d" zeroWords).outcome =
      .error (.danglingQuantifier 2) := by
    decide +kernel
  refine ⟨by decide, compiled, ?_⟩
  rcases ofPattern_eq_ok_or_dangling (by decide) compiled zeroWords with ⟨result, ok⟩ | dangling
  · rw [failed] at ok
    cases ok
  · exact dangling

end Compilation
end PatternDraw
