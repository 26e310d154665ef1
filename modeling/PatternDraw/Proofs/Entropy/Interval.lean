import PatternDraw.Entropy.Uniform

/-!
# Choices stay in their interval

A number chosen from an interval lies in it, whatever words the source draws.  The word zero
chooses its lower end, and the greatest word its upper end.  All this holds for words of either
size, and so for numbers, where the upper end decides the size, and for indices, where the size of
the collection does.
-/

namespace PatternDraw

/-- A number of 64 bits is smaller than the number of words from which it is chosen. -/
theorem WordSize.lt_range_ofUpper {upper : Nat} (wide : upper < WordSize.wide.range) :
    upper < (ofUpper upper).range := by
  unfold ofUpper
  split
  · assumption
  · exact wide

namespace Uniform

/-! ## Products of words -/

/-- The upper part of a product with a number of values is one of so many values. -/
theorem upperPart_lt {range word values : Nat} (wordBound : word < range) (positive : 0 < values) :
    upperPart range word values < values := by
  rw [upperPart, Nat.div_lt_iff_lt_mul (Nat.zero_lt_of_lt wordBound), Nat.mul_comm values range]
  exact Nat.mul_lt_mul_of_pos_right wordBound positive

theorem carry_le_one (range word second values : Nat) : carry range word second values ≤ 1 := by
  unfold carry
  split <;> simp

/-- Where a second word could carry, the first one does not choose the last value. -/
theorem upperPart_add_one_lt {range word values : Nat} (wordBound : word < range)
    (fits : values ≤ range) (carries : mayCarry range word values = true) :
    upperPart range word values + 1 < values := by
  have lowerBound : range - values < lowerPart range word values := of_decide_eq_true carries
  have split : range * upperPart range word values + lowerPart range word values =
      word * values := Nat.div_add_mod (word * values) range
  have productBound : word * values + values ≤ range * values := by
    rw [← Nat.succ_mul]
    exact Nat.mul_le_mul_right values wordBound
  apply Nat.lt_of_not_le
  intro last
  have upperBound : range * values ≤ range * upperPart range word values + range := by
    rw [← Nat.mul_succ]
    exact Nat.mul_le_mul_left range last
  omega

theorem upperPart_add_carry_lt {range word values : Nat} (wordBound : word < range)
    (fits : values ≤ range) (carries : mayCarry range word values = true) (second : Nat) :
    upperPart range word values + carry range word second values < values := by
  have room := upperPart_add_one_lt wordBound fits carries
  have step := carry_le_one range word second values
  omega

/-- The parts of the product of the greatest word with a number of values. -/
theorem parts_of_last {range values : Nat} (positive : 0 < values) (fits : values ≤ range) :
    upperPart range (range - 1) values = values - 1 ∧
      lowerPart range (range - 1) values = range - values := by
  have product : (range - 1) * values = range * (values - 1) + (range - values) := by
    rw [Nat.sub_mul, Nat.mul_sub]
    have fewer : range * 1 ≤ range * values := Nat.mul_le_mul_left range positive
    omega
  have remainder : range - values < range := by omega
  constructor
  · rw [upperPart, product, Nat.mul_add_div (by omega), Nat.div_eq_of_lt remainder, Nat.add_zero]
  · rw [lowerPart, product, Nat.mul_add_mod, Nat.mod_eq_of_lt remainder]

/-! ## Choices -/

variable {σ : Type} [EntropySource σ]

theorem drawWord_lt (size : WordSize) (source : σ) : (drawWord size source).1 < size.range := by
  cases size with
  | narrow => exact UInt32.toNat_lt _
  | wide => exact UInt64.toNat_lt _

/-! ### With words of a given size -/

theorem lower_le_fromWords (size : WordSize) (lower upper : Nat) (source : σ) :
    lower ≤ (fromWords size lower upper source).1 := by
  unfold fromWords
  dsimp only
  split
  · exact Nat.le_add_right _ _
  · split
    · exact Nat.le_add_right _ _
    · exact Nat.le_add_right _ _

theorem fromWords_le_upper {lower upper : Nat} (ordered : lower ≤ upper) (size : WordSize)
    (source : σ) : (fromWords size lower upper source).1 ≤ upper := by
  have wordBound := drawWord_lt size source
  have fits : (upper - lower + 1) % size.range < size.range := Nat.mod_lt _ size.range_pos
  have valuesBound : (upper - lower + 1) % size.range ≤ upper - lower + 1 := Nat.mod_le _ _
  unfold fromWords
  dsimp only
  split
  · rename_i full
    -- All words are values here, so there are at least as many values as words.
    have wordsFit : size.range ≤ upper - lower + 1 :=
      Nat.le_of_dvd (Nat.succ_pos _) (Nat.dvd_of_mod_eq_zero full)
    simp only
    omega
  · rename_i someValues
    have positive := Nat.pos_of_ne_zero someValues
    split
    · rename_i carries
      have chosen := upperPart_add_carry_lt wordBound (Nat.le_of_lt fits) carries
        (drawWord size (drawWord size source).2).1
      simp only
      omega
    · have chosen := upperPart_lt wordBound positive
      simp only
      omega

/-- The word zero chooses the lower end, and no second word is drawn. -/
theorem fromWords_of_drawWord_zero {size : WordSize} {source rest : σ}
    (zero : drawWord size source = (0, rest)) (lower upper : Nat) :
    fromWords size lower upper source = (lower, rest) := by
  unfold fromWords
  simp [zero, mayCarry, lowerPart, upperPart]

/-- The greatest word chooses the upper end, and no second word is drawn. -/
theorem fromWords_of_drawWord_last {size : WordSize} {lower upper : Nat} {source rest : σ}
    (ordered : lower ≤ upper) (fits : upper < size.range)
    (last : drawWord size source = (size.range - 1, rest)) :
    fromWords size lower upper source = (upper, rest) := by
  unfold fromWords
  dsimp only
  rw [last]
  by_cases full : upper - lower + 1 = size.range
  · have allWords : (upper - lower + 1) % size.range = 0 := by
      rw [full, Nat.mod_self]
    rw [if_pos allWords]
    congr 1
    omega
  · have fewer : upper - lower + 1 < size.range := by omega
    obtain ⟨upperEq, lowerEq⟩ := parts_of_last (Nat.succ_pos (upper - lower)) (Nat.le_of_lt fewer)
    have noCarry : mayCarry size.range (size.range - 1) (upper - lower + 1) = false := by
      rw [mayCarry, lowerEq]
      exact decide_eq_false (Nat.lt_irrefl _)
    rw [Nat.mod_eq_of_lt fewer, if_neg (Nat.succ_ne_zero _), noCarry, upperEq]
    simp only [Bool.false_eq_true, if_false]
    congr 1
    omega

/-! ### Numbers and indices -/

theorem lower_le_between (lower upper : Nat) (source : σ) :
    lower ≤ (between lower upper source).1 :=
  lower_le_fromWords _ lower upper source

theorem between_le_upper {lower upper : Nat} (ordered : lower ≤ upper) (source : σ) :
    (between lower upper source).1 ≤ upper :=
  fromWords_le_upper ordered _ source

theorem between_of_drawWord_zero {lower upper : Nat} {source rest : σ}
    (zero : drawWord (WordSize.ofUpper upper) source = (0, rest)) :
    between lower upper source = (lower, rest) :=
  fromWords_of_drawWord_zero zero lower upper

theorem between_of_drawWord_last {lower upper : Nat} {source rest : σ} (ordered : lower ≤ upper)
    (wide : upper < WordSize.wide.range)
    (last : drawWord (WordSize.ofUpper upper) source =
      ((WordSize.ofUpper upper).range - 1, rest)) :
    between lower upper source = (upper, rest) :=
  fromWords_of_drawWord_last ordered (WordSize.lt_range_ofUpper wide) last

theorem index_of_drawWord_zero {size : Nat} {source rest : σ}
    (zero : drawWord (WordSize.ofUpper size) source = (0, rest)) :
    index size source = (0, rest) :=
  fromWords_of_drawWord_zero zero 0 (size - 1)

theorem index_lt {size : Nat} (positive : 0 < size) (source : σ) : (index size source).1 < size :=
  Nat.lt_of_le_of_lt (fromWords_le_upper (Nat.zero_le (size - 1)) _ source)
    (Nat.sub_lt positive Nat.one_pos)

end Uniform

end PatternDraw
