import PatternDraw.Alphabet.Choice
import PatternDraw.Proofs.Entropy.Interval

/-!
# Draws that are made

What is left of a source after a number of draws tells which draws were made: a metered source
has counted them.  To choose a number from an interval takes one word or two, of a size that the
upper end of the interval decides; for an index it is the size of the collection that decides.  To
choose from an alphabet of one character takes one narrow draw, whatever the word is that is
drawn.
-/

namespace PatternDraw

variable {σ : Type} [EntropySource σ]

/-! ## Rows of draws -/

/-- What is left of a source after a number of narrow draws. -/
def afterNarrow : Nat → σ → σ
  | 0, source => source
  | count + 1, source => afterNarrow count (EntropySource.draw32 source).2

/-- A metered source counts the draws of a row. -/
theorem Metered.afterNarrow_draws (count : Nat) (meter : Metered σ) :
    (afterNarrow count meter).narrowDraws = meter.narrowDraws + count ∧
      (afterNarrow count meter).wideDraws = meter.wideDraws := by
  induction count generalizing meter with
  | zero => exact ⟨rfl, rfl⟩
  | succ count ih =>
      obtain ⟨narrow, wide⟩ := ih (EntropySource.draw32 meter).2
      rw [afterNarrow]
      refine ⟨?_, wide⟩
      rw [narrow]
      change meter.narrowDraws + 1 + count = meter.narrowDraws + (count + 1)
      omega

/-- What is left of a source after words of the given sizes have been drawn in order. -/
def afterWords : List WordSize → σ → σ
  | [], source => source
  | size :: rest, source => afterWords rest (Uniform.drawWord size source).2

@[simp]
theorem afterWords_append (first second : List WordSize) (source : σ) :
    afterWords (first ++ second) source = afterWords second (afterWords first source) := by
  induction first generalizing source with
  | nil => rfl
  | cons size rest ih => exact ih _

/-- A metered source counts the words of each size. -/
theorem Metered.afterWords_draws (words : List WordSize) (meter : Metered σ) :
    (afterWords words meter).narrowDraws = meter.narrowDraws + words.count .narrow ∧
      (afterWords words meter).wideDraws = meter.wideDraws + words.count .wide := by
  induction words generalizing meter with
  | nil => exact ⟨rfl, rfl⟩
  | cons size rest ih =>
      obtain ⟨narrow, wide⟩ := ih (Uniform.drawWord size meter).2
      rw [afterWords, narrow, wide]
      cases size with
      | narrow =>
          refine ⟨?_, by simp [Uniform.drawWord, EntropySource.draw32]⟩
          rw [List.count_cons_self]
          change meter.narrowDraws + 1 + rest.count .narrow = _
          omega
      | wide =>
          refine ⟨by simp [Uniform.drawWord, EntropySource.draw64], ?_⟩
          rw [List.count_cons_self]
          change meter.wideDraws + 1 + rest.count .wide = _
          omega

/-- A number is chosen by one word or by two words of the same size. -/
theorem Uniform.exists_words_fromWords (size : WordSize) (lower upper : Nat) (source : σ) :
    ∃ words, (words = [size] ∨ words = [size, size]) ∧
      (fromWords size lower upper source).2 = afterWords words source := by
  unfold fromWords
  dsimp only
  split
  · exact ⟨_, .inl rfl, rfl⟩
  · split
    · exact ⟨_, .inr rfl, rfl⟩
    · exact ⟨_, .inl rfl, rfl⟩

/-- The upper end decides from which words a number is chosen. -/
theorem Uniform.exists_words_between (lower upper : Nat) (source : σ) :
    ∃ words, (words = [WordSize.ofUpper upper] ∨
        words = [WordSize.ofUpper upper, WordSize.ofUpper upper]) ∧
      (between lower upper source).2 = afterWords words source :=
  exists_words_fromWords _ lower upper source

/-- The size of the collection decides from which words an index is chosen. -/
theorem Uniform.exists_words_index (size : Nat) (source : σ) :
    ∃ words, (words = [WordSize.ofUpper size] ∨
        words = [WordSize.ofUpper size, WordSize.ofUpper size]) ∧
      (index size source).2 = afterWords words source :=
  exists_words_fromWords _ 0 (size - 1) source

/-! ## One character -/

/-- The only index is chosen by one narrow draw, whatever the word is. -/
theorem Uniform.index_one (source : σ) : index 1 source = (0, (EntropySource.draw32 source).2) := by
  have narrow : WordSize.ofUpper 1 = .narrow := rfl
  have small := drawWord_lt .narrow source
  have lowest : upperPart WordSize.narrow.range (drawWord .narrow source).1 1 = 0 := by
    rw [upperPart, Nat.mul_one]
    exact Nat.div_eq_of_lt small
  have noCarry : mayCarry WordSize.narrow.range (drawWord .narrow source).1 1 = false := by
    rw [mayCarry, lowerPart, Nat.mul_one, Nat.mod_eq_of_lt small]
    exact decide_eq_false (Nat.not_lt_of_le (Nat.le_pred_of_lt small))
  have one : (1 - 1 - 0 + 1) % WordSize.narrow.range = 1 := rfl
  unfold index fromWords
  simp only [narrow, one, noCarry, lowest]
  rfl

/-- A text is extended by the only character of an alphabet. -/
theorem Alphabet.extend_single (ch : Char) (text : String) (source : σ) :
    (single ch).extend text source = (text.push ch, (EntropySource.draw32 source).2) := by
  have index : Uniform.index (single ch).size source =
      (0, (EntropySource.draw32 source).2) := Uniform.index_one source
  have chosen : (single ch).choose source = (some ch, (EntropySource.draw32 source).2) := by
    rw [choose, index]
    rfl
  rw [extend, chosen]

end PatternDraw
