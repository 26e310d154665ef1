import Mathlib.Algebra.Group.Nat.Defs
import PatternDraw.Entropy.Cyclic
import PatternDraw.Proofs.Entropy.Interval

/-!
# Words that make a choice

A value is reachable if some words make a draw give it, whatever state the source is in that
supplies them.  Every number of an interval is reachable, by one word or by two, and reachable
draws can be made one after the other.
-/

namespace PatternDraw.CyclicWords

/-! ## Supplies -/

/-- The source gives the words in turn and is then in the state `rest`. -/
inductive Supplies : CyclicWords → List UInt64 → CyclicWords → Prop
  | nil (source : CyclicWords) : Supplies source [] source
  | cons {source middle rest : CyclicWords} {word : UInt64} {words : List UInt64}
      (gives : source.next = (word, middle)) (supplies : Supplies middle words rest) :
      Supplies source (word :: words) rest

theorem Supplies.append {source rest : CyclicWords} {first second : List UInt64}
    (supplies : Supplies source (first ++ second) rest) :
    ∃ middle, Supplies source first middle ∧ Supplies middle second rest := by
  induction first generalizing source with
  | nil => exact ⟨source, .nil source, supplies⟩
  | cons word words ih =>
      cases supplies with
      | cons gives onward =>
          rcases ih onward with ⟨middle, firstSupplies, secondSupplies⟩
          exact ⟨middle, .cons gives firstSupplies, secondSupplies⟩

theorem supplies_pending (first : UInt64) (others pending : List UInt64) :
    Supplies ⟨first, others, pending⟩ pending ⟨first, others, []⟩ := by
  induction pending with
  | nil => exact .nil _
  | cons word words ih => exact .cons rfl ih

/-- Every list of words is supplied by a source at the start of a round. -/
theorem exists_supplies (words : List UInt64) :
    ∃ first others rest, Supplies ⟨first, others, []⟩ words rest := by
  cases words with
  | nil => exact ⟨0, [], _, .nil _⟩
  | cons word words => exact ⟨word, words, _, .cons rfl (supplies_pending word words words)⟩

/-! ## Reachable values -/

/-- Some words make the draw give the value. -/
def Reachable {α : Type} (draw : CyclicWords → α × CyclicWords) (value : α) : Prop :=
  ∃ words, ∀ source rest : CyclicWords, Supplies source words rest → draw source = (value, rest)

/-- A value that needs no draw. -/
theorem reachable_pure {α : Type} (value : α) :
    Reachable (fun source => (value, source)) value := by
  refine ⟨[], ?_⟩
  intro source rest supplies
  cases supplies
  rfl

theorem Reachable.map {α β : Type} {draw : CyclicWords → α × CyclicWords} {value : α}
    (drawn : Reachable draw value) (change : α → β) :
    Reachable (fun source => (change (draw source).1, (draw source).2)) (change value) := by
  obtain ⟨words, draws⟩ := drawn
  refine ⟨words, ?_⟩
  intro source rest supplies
  simp only [draws source rest supplies]

/-- Draws that are made one after the other. -/
theorem Reachable.andThen {α β : Type} {draw : CyclicWords → α × CyclicWords}
    {value : α} {final : β} (drawn : Reachable draw value)
    (next : α → CyclicWords → β × CyclicWords) (onward : Reachable (next value) final) :
    Reachable (fun source => next (draw source).1 (draw source).2) final := by
  obtain ⟨first, draws⟩ := drawn
  obtain ⟨second, drawsOnward⟩ := onward
  refine ⟨first ++ second, ?_⟩
  intro source rest supplies
  obtain ⟨middle, firstSupplies, secondSupplies⟩ := supplies.append
  simp only [draws source middle firstSupplies]
  exact drawsOnward middle rest secondSupplies

end PatternDraw.CyclicWords

namespace PatternDraw.Uniform

open CyclicWords

theorem reachable_drawWord {size : WordSize} {word : Nat} (wordBound : word < size.range) :
    Reachable (drawWord size) word := by
  refine ⟨[UInt64.ofNat word], ?_⟩
  intro source rest supplies
  cases supplies with
  | cons gives onward =>
      cases onward
      cases size with
      | narrow =>
          have fits : word < 2 ^ 32 := wordBound
          have fitsWide : word < 2 ^ 64 := Nat.lt_trans fits (by decide)
          have kept : (UInt64.ofNat word).toUInt32.toNat = word := by
            rw [UInt64.toNat_toUInt32, UInt64.toNat_ofNat_of_lt' fitsWide, Nat.mod_eq_of_lt fits]
          simp only [drawWord, EntropySource.draw32, gives, kept]
      | wide =>
          have fits : word < 2 ^ 64 := wordBound
          simp only [drawWord, EntropySource.draw64, gives, UInt64.toNat_ofNat_of_lt' fits]

/-- Each of the values is the upper part of a suitable word. -/
theorem exists_upperPart_eq {range values index : Nat} (indexBound : index < values)
    (fits : values ≤ range) : ∃ word < range, upperPart range word values = index := by
  have positive : 0 < values := Nat.zero_lt_of_lt indexBound
  -- The least word whose product reaches `index * range`.
  let word := (index * range + (values - 1)) / values
  have lowerBound : index * range ≤ word * values := by
    have step := Nat.lt_div_mul_add (a := index * range + (values - 1)) positive
    change index * range + (values - 1) < word * values + values at step
    omega
  have upperBound : word * values < (index + 1) * range := by
    have step := Nat.div_mul_le_self (index * range + (values - 1)) values
    change word * values ≤ _ at step
    rw [Nat.succ_mul]
    omega
  have productBound : (index + 1) * range ≤ range * values := by
    rw [Nat.mul_comm]
    exact Nat.mul_le_mul_left range indexBound
  refine ⟨word, Nat.lt_of_mul_lt_mul_right (Nat.lt_of_lt_of_le upperBound productBound), ?_⟩
  rw [upperPart]
  exact Nat.div_eq_of_lt_le lowerBound upperBound

/-- Every number of an interval that fits the words can be chosen with them. -/
theorem reachable_fromWords {size : WordSize} {lower upper value : Nat}
    (upperFits : upper < size.range) (lowerBound : lower ≤ value) (upperBound : value ≤ upper) :
    Reachable (fromWords size lower upper) value := by
  by_cases full : upper - lower + 1 = size.range
  · have wordBound : value - lower < size.range := by omega
    obtain ⟨words, draws⟩ := reachable_drawWord wordBound
    refine ⟨words, ?_⟩
    intro source rest supplies
    unfold fromWords
    simp [full, draws source rest supplies, Nat.add_sub_cancel' lowerBound]
  · have fewer : upper - lower + 1 < size.range := by omega
    have values : (upper - lower + 1) % size.range = upper - lower + 1 := Nat.mod_eq_of_lt fewer
    have indexBound : value - lower < upper - lower + 1 := by omega
    obtain ⟨word, wordBound, chosen⟩ := exists_upperPart_eq indexBound (Nat.le_of_lt fewer)
    obtain ⟨words, draws⟩ := reachable_drawWord wordBound
    by_cases carries : mayCarry size.range word (upper - lower + 1) = true
    · -- A second word zero carries nothing.
      obtain ⟨zeros, drawsZero⟩ := reachable_drawWord size.range_pos
      have nothing : carry size.range word 0 (upper - lower + 1) = 0 := by
        have lowerSmall := Nat.mod_lt (word * (upper - lower + 1)) size.range_pos
        simp [carry, upperPart, lowerPart, lowerSmall]
      refine ⟨words ++ zeros, ?_⟩
      intro source rest supplies
      obtain ⟨middle, firstSupplies, secondSupplies⟩ := supplies.append
      unfold fromWords
      simp [values, draws source middle firstSupplies, drawsZero middle rest secondSupplies,
        carries, nothing, chosen, Nat.add_sub_cancel' lowerBound]
    · refine ⟨words, ?_⟩
      intro source rest supplies
      unfold fromWords
      simp [values, draws source rest supplies, carries, chosen, Nat.add_sub_cancel' lowerBound]

/-- Every number of an interval of 64-bit numbers can be chosen. -/
theorem reachable_between {lower upper value : Nat} (wide : upper < 2 ^ 64)
    (lowerBound : lower ≤ value) (upperBound : value ≤ upper) :
    Reachable (between lower upper) value :=
  reachable_fromWords (WordSize.lt_range_ofUpper wide) lowerBound upperBound

/-- Every index into a collection of up to `2 ^ 64` members can be chosen. -/
theorem reachable_index {size position : Nat} (wide : size ≤ 2 ^ 64) (inside : position < size) :
    Reachable (index size) position := by
  have fits : size - 1 < (WordSize.ofUpper size).range := by
    unfold WordSize.ofUpper
    split
    · rename_i narrow
      exact Nat.lt_of_le_of_lt (Nat.sub_le size 1) narrow
    · exact Nat.lt_of_lt_of_le (Nat.sub_lt (Nat.zero_lt_of_lt inside) Nat.one_pos) wide
  exact reachable_fromWords fits (Nat.zero_le position) (Nat.le_sub_one_of_lt inside)

end PatternDraw.Uniform
