import PatternDraw.Pattern.Compilation
import PatternDraw.Proofs.Entropy.Interval

/-!
# What a quantifier does to a template

The number of repetitions is chosen without a look at the template: it depends on the bounds,
the limits and the source.  The template only has to offer a slot to repeat, and only its last
slot is touched.
-/

namespace PatternDraw

namespace Template

/-- Templates with the same slots in the same order are equal. -/
theorem toList_injective {first second : Template} (same : first.toList = second.toList) :
    first = second := by
  cases first
  cases second
  simpa [toList] using same

theorem last?_eq_some_iff {template : Template} {slot : Slot} :
    template.last? = some slot ↔ ∃ before, template.toList = before ++ [slot] := by
  rw [last?, ← Array.getLast?_toList]
  exact List.getLast?_eq_some_iff

theorem toList_replaceLast_of_eq {template : Template} {before : List Slot} {slot : Slot}
    (slots : template.toList = before ++ [slot]) (count : Nat) :
    (template.replaceLast count slot).toList = before ++ List.replicate count slot := by
  simp [slots]

end Template

namespace Compilation

variable {σ : Type} [EntropySource σ]

/-! ## The number of repetitions -/

theorem lower_le_chooseCount (lower upper : Nat) (source : σ) :
    lower ≤ (chooseCount lower upper source).1 := by
  unfold chooseCount
  split
  · exact Nat.le_refl lower
  · exact Uniform.lower_le_between lower upper source

theorem chooseCount_le_upper {lower upper : Nat} (ordered : lower ≤ upper) (source : σ) :
    (chooseCount lower upper source).1 ≤ upper := by
  unfold chooseCount
  split
  · exact ordered
  · exact Uniform.between_le_upper ordered source

/-- The upper bound of a quantifier, an open one filled in. -/
def upperBound (limits : Limits) (bounds : Bounds) : Nat :=
  bounds.upper.getD limits.openUpper

/-- The bounds are in order and within the limit. -/
def Allowed (limits : Limits) (bounds : Bounds) : Prop :=
  bounds.lower ≤ upperBound limits bounds ∧ upperBound limits bounds ≤ limits.repeatLimit

/-- The number of repetitions that a quantifier at `offset` asks for where there is a slot, or
the fault that it has on its own. -/
def repetitions (limits : Limits) (offset : Nat) (bounds : Bounds) (source : σ) :
    Except Fault Nat × σ :=
  let upper := upperBound limits bounds
  if upper < bounds.lower then
    (.error (.invertedRange offset bounds.lower upper), source)
  else if limits.repeatLimit < upper then
    (.error (.repeatTooLarge offset upper limits.repeatLimit), source)
  else
    let (count, source) := chooseCount bounds.lower upper source
    if limits.capacity < count then
      (.error (.repeatTooLarge offset count limits.repeatLimit), source)
    else (.ok count, source)

/-- A number of repetitions is found exactly for allowed bounds, where memory holds the number
that was chosen. -/
theorem repetitions_eq_ok_iff {limits : Limits} {offset : Nat} {bounds : Bounds}
    {source rest : σ} {count : Nat} :
    repetitions limits offset bounds source = (.ok count, rest) ↔
      Allowed limits bounds ∧
        chooseCount bounds.lower (upperBound limits bounds) source = (count, rest) ∧
        count ≤ limits.capacity := by
  constructor
  · intro found
    unfold repetitions at found
    dsimp only at found
    split at found
    · cases found
    · rename_i ordered
      split at found
      · cases found
      · rename_i limited
        split at found
        · cases found
        · rename_i held
          cases found
          exact ⟨⟨Nat.le_of_not_lt ordered, Nat.le_of_not_lt limited⟩, rfl,
            Nat.le_of_not_lt held⟩
  · rintro ⟨⟨ordered, limited⟩, chosen, held⟩
    simp only [repetitions, chosen, Nat.not_lt.mpr ordered, Nat.not_lt.mpr limited,
      Nat.not_lt.mpr held, if_false]

/-- Where memory holds what the limit allows, allowed bounds have a number of repetitions. -/
theorem repetitions_of_allowed {limits : Limits} {bounds : Bounds}
    (reservable : limits.repeatLimit ≤ limits.capacity) (allowed : Allowed limits bounds)
    (offset : Nat) (source : σ) :
    repetitions limits offset bounds source =
      (.ok (chooseCount bounds.lower (upperBound limits bounds) source).1,
        (chooseCount bounds.lower (upperBound limits bounds) source).2) := by
  refine repetitions_eq_ok_iff.mpr ⟨allowed, rfl, ?_⟩
  exact Nat.le_trans (chooseCount_le_upper allowed.1 source) (Nat.le_trans allowed.2 reservable)

/-- A number of repetitions that memory does not hold is a fault once it is drawn. -/
theorem repetitions_of_overCapacity {limits : Limits} {bounds : Bounds} {source rest : σ}
    {count : Nat} (allowed : Allowed limits bounds)
    (chosen : chooseCount bounds.lower (upperBound limits bounds) source = (count, rest))
    (exceeds : limits.capacity < count) (offset : Nat) :
    repetitions limits offset bounds source =
      (.error (.repeatTooLarge offset count limits.repeatLimit), rest) := by
  have ordered := Nat.not_lt.mpr allowed.1
  have limited := Nat.not_lt.mpr allowed.2
  simp only [repetitions, chosen, ordered, limited, exceeds, if_false, if_true]

/-! ## The template -/

/-- Where there is a slot to repeat, its number of repetitions decides. -/
theorem repeatLast_of_last {template : Template} {slot : Slot}
    (last : template.last? = some slot) (limits : Limits) (offset : Nat) (bounds : Bounds)
    (source : σ) :
    repeatLast limits offset bounds template source =
      ((repetitions limits offset bounds source).1.map fun count =>
          template.replaceLast count slot,
        (repetitions limits offset bounds source).2) := by
  unfold repeatLast repetitions upperBound
  dsimp only
  split
  · rfl
  · split
    · rfl
    · simp only [last]
      split
      · rfl
      · rfl

/-- Bounds that are not allowed are a fault, whatever there is to repeat. -/
theorem repeatLast_of_not_allowed {limits : Limits} {bounds : Bounds}
    (notAllowed : ¬ Allowed limits bounds) (offset : Nat) (source : σ) :
    ∃ fault, repetitions limits offset bounds source = (.error fault, source) ∧
      ∀ template, repeatLast limits offset bounds template source = (.error fault, source) := by
  by_cases inverted : upperBound limits bounds < bounds.lower
  · refine ⟨.invertedRange offset bounds.lower (upperBound limits bounds), ?_, ?_⟩
    · exact if_pos inverted
    · intro template
      exact if_pos inverted
  · have tooLarge : limits.repeatLimit < upperBound limits bounds := by
      unfold Allowed at notAllowed
      omega
    refine ⟨.repeatTooLarge offset (upperBound limits bounds) limits.repeatLimit, ?_, ?_⟩
    · exact (if_neg inverted).trans (if_pos tooLarge)
    · intro template
      exact (if_neg inverted).trans (if_pos tooLarge)

/-- Without a slot an allowed quantifier has nothing to repeat. -/
theorem repeatLast_of_empty {limits : Limits} {bounds : Bounds} {template : Template}
    (allowed : Allowed limits bounds) (empty : template.last? = none) (offset : Nat)
    (source : σ) :
    repeatLast limits offset bounds template source =
      (.error (.danglingQuantifier offset), source) := by
  have ordered := Nat.not_lt.mpr allowed.1
  have limited := Nat.not_lt.mpr allowed.2
  unfold upperBound at ordered limited
  simp only [repeatLast, ordered, limited, if_false, empty]

/-- A quantifier succeeds on a slot and puts as many copies of it as were chosen. -/
theorem exists_of_repeatLast_eq_ok {limits : Limits} {offset : Nat} {bounds : Bounds}
    {template result : Template} {source rest : σ}
    (repeated : repeatLast limits offset bounds template source = (.ok result, rest)) :
    ∃ before slot count, template.toList = before ++ [slot] ∧
      repetitions limits offset bounds source = (.ok count, rest) ∧
      result.toList = before ++ List.replicate count slot := by
  cases last : template.last? with
  | none =>
      by_cases allowed : Allowed limits bounds
      · rw [repeatLast_of_empty allowed last] at repeated
        cases repeated
      · obtain ⟨fault, _, failed⟩ := repeatLast_of_not_allowed allowed offset source
        rw [failed] at repeated
        cases repeated
  | some slot =>
      obtain ⟨before, slots⟩ := Template.last?_eq_some_iff.mp last
      rw [repeatLast_of_last last] at repeated
      cases chosen : repetitions limits offset bounds source with
      | mk outcome after =>
          rw [chosen] at repeated
          cases outcome with
          | error fault => cases repeated
          | ok count =>
              cases repeated
              exact ⟨before, slot, count, slots, rfl, Template.toList_replaceLast_of_eq slots count⟩

/-! ## Refusals -/

/-- Why a quantifier at `offset` is refused: its fault, and what is then left of the source. -/
inductive Refusal (limits : Limits) (offset : Nat) (bounds : Bounds) (template : Template)
    (source : σ) : Fault → σ → Prop
  | inverted (inverted : upperBound limits bounds < bounds.lower) :
      Refusal limits offset bounds template source
        (.invertedRange offset bounds.lower (upperBound limits bounds)) source
  | overLimit (ordered : bounds.lower ≤ upperBound limits bounds)
      (exceeds : limits.repeatLimit < upperBound limits bounds) :
      Refusal limits offset bounds template source
        (.repeatTooLarge offset (upperBound limits bounds) limits.repeatLimit) source
  | dangling (allowed : Allowed limits bounds) (empty : template.toList = []) :
      Refusal limits offset bounds template source (.danglingQuantifier offset) source
  | overCapacity {count : Nat} {rest : σ} (allowed : Allowed limits bounds)
      (chosen : chooseCount bounds.lower (upperBound limits bounds) source = (count, rest))
      (exceeds : limits.capacity < count) :
      Refusal limits offset bounds template source
        (.repeatTooLarge offset count limits.repeatLimit) rest

theorem refusal_of_repetitions {limits : Limits} {offset : Nat} {bounds : Bounds}
    {source rest : σ} {fault : Fault}
    (failed : repetitions limits offset bounds source = (.error fault, rest))
    (template : Template) : Refusal limits offset bounds template source fault rest := by
  unfold repetitions at failed
  dsimp only at failed
  split at failed
  · rename_i inverted
    cases failed
    exact .inverted inverted
  · rename_i ordered
    split at failed
    · rename_i exceeds
      cases failed
      exact .overLimit (Nat.le_of_not_lt ordered) exceeds
    · rename_i limited
      split at failed
      · rename_i exceeds
        cases failed
        exact .overCapacity ⟨Nat.le_of_not_lt ordered, Nat.le_of_not_lt limited⟩ rfl exceeds
      · cases failed

/-- A quantifier fails for one of these reasons only. -/
theorem refusal_of_repeatLast {limits : Limits} {offset : Nat} {bounds : Bounds}
    {template : Template} {source rest : σ} {fault : Fault}
    (failed : repeatLast limits offset bounds template source = (.error fault, rest)) :
    Refusal limits offset bounds template source fault rest := by
  cases last : template.last? with
  | none =>
      by_cases allowed : Allowed limits bounds
      · rw [repeatLast_of_empty allowed last] at failed
        cases failed
        exact .dangling allowed (by simpa [Template.last?, Template.toList] using last)
      · obtain ⟨own, refused, sameFault⟩ := repeatLast_of_not_allowed allowed offset source
        rw [sameFault] at failed
        cases failed
        exact refusal_of_repetitions refused template
  | some slot =>
      rw [repeatLast_of_last last] at failed
      cases chosen : repetitions limits offset bounds source with
      | mk outcome after =>
          rw [chosen] at failed
          cases outcome with
          | ok count => cases failed
          | error own =>
              cases failed
              exact refusal_of_repetitions chosen template

end Compilation

end PatternDraw
