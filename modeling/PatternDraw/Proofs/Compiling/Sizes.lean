import Mathlib.Algebra.Order.BigOperators.Group.List
import Mathlib.Algebra.Order.Ring.Int
import Mathlib.Data.List.Forall2
import PatternDraw.Entropy.Cyclic
import PatternDraw.Proofs.Compiling.Denotation

/-!
# The number of slots

An atom adds one slot, and a quantifier that repeats its slot `k` times adds `k - 1` of them, so
a quantifier behind another one adds to what that one has added and does not multiply it.  The
limit is set for each quantifier alone, but as a construct takes at least one character it
bounds the number of all slots by the length of the pattern.  Words that are all ones give every
quantifier its greatest count, and with them the bound is reached.
-/

namespace PatternDraw

open Compilation

/-! ## Atoms and quantifiers of a pattern -/

/-- The atom that a construct is. -/
def Construct.atom? : Construct → Option Atom
  | .atom part => some part
  | .quantifier _ => none

/-- The quantifier that a construct is. -/
def Construct.quantifier? : Construct → Option Quantifier
  | .atom _ => none
  | .quantifier part => some part

/-- The atoms among some constructs, in order. -/
def atomsOf (constructs : List Construct) : List Atom :=
  constructs.filterMap Construct.atom?

/-- The quantifiers among some constructs, in order. -/
def quantifiersOf (constructs : List Construct) : List Quantifier :=
  constructs.filterMap Construct.quantifier?

@[simp]
theorem atomsOf_cons_atom (part : Atom) (rest : List Construct) :
    atomsOf (.atom part :: rest) = part :: atomsOf rest :=
  rfl

@[simp]
theorem atomsOf_cons_quantifier (part : Quantifier) (rest : List Construct) :
    atomsOf (.quantifier part :: rest) = atomsOf rest :=
  rfl

@[simp]
theorem quantifiersOf_cons_atom (part : Atom) (rest : List Construct) :
    quantifiersOf (.atom part :: rest) = quantifiersOf rest :=
  rfl

@[simp]
theorem quantifiersOf_cons_quantifier (part : Quantifier) (rest : List Construct) :
    quantifiersOf (.quantifier part :: rest) = part :: quantifiersOf rest :=
  rfl

/-- Every construct is an atom or a quantifier. -/
theorem length_atomsOf_add_length_quantifiersOf (constructs : List Construct) :
    (atomsOf constructs).length + (quantifiersOf constructs).length = constructs.length := by
  induction constructs with
  | nil => rfl
  | cons construct rest ih =>
      cases construct with
      | atom part =>
          simp only [atomsOf_cons_atom, quantifiersOf_cons_atom, List.length_cons]
          omega
      | quantifier part =>
          simp only [atomsOf_cons_quantifier, quantifiersOf_cons_quantifier, List.length_cons]
          omega

/-- Every construct takes up a character at least. -/
theorem length_le_length_textOf (constructs : List Construct) :
    constructs.length ≤ (textOf constructs).length := by
  induction constructs with
  | nil => exact Nat.le_refl 0
  | cons construct rest ih =>
      have filled := construct.length_text_pos
      rw [textOf_cons, List.length_append, List.length_cons]
      omega

/-! ## Slots that counts lead to -/

/-- A count lies within the bounds of its quantifier. -/
def Quantifier.Admits (limits : Limits) (part : Quantifier) (count : Nat) : Prop :=
  part.bounds.lower ≤ count ∧ count ≤ upperBound limits part.bounds

/-- Counts that are realized lie within the bounds of their quantifiers. -/
theorem Realizes.admits {limits : Limits} {offset : Nat} {constructs : List Construct}
    {slots result : List Slot} {counts : List Nat}
    (realizes : Realizes limits offset constructs slots counts result) :
    List.Forall₂ (Quantifier.Admits limits) (quantifiersOf constructs) counts := by
  induction realizes with
  | nil => exact .nil
  | atom _ ih => exact ih
  | quantifier _ least greatest _ ih => exact .cons ⟨least, greatest⟩ ih

/-- Counts that are realized lie within the limit. -/
theorem Realizes.count_le {limits : Limits} {offset : Nat} {constructs : List Construct}
    {slots result : List Slot} {counts : List Nat}
    (realizes : Realizes limits offset constructs slots counts result) :
    ∀ count ∈ counts, count ≤ limits.repeatLimit := by
  induction realizes with
  | nil => exact fun count member => absurd member List.not_mem_nil
  | atom _ ih => exact ih
  | quantifier allowed _ greatest _ ih =>
      intro count member
      rcases List.mem_cons.mp member with rfl | behind
      · exact Nat.le_trans greatest allowed.2
      · exact ih count behind

/-- Every atom adds a slot, and every quantifier one slot less than it is repeated. -/
theorem Realizes.length_eq {limits : Limits} {offset : Nat} {constructs : List Construct}
    {slots result : List Slot} {counts : List Nat}
    (realizes : Realizes limits offset constructs slots counts result) :
    (result.length : Int) = slots.length + (atomsOf constructs).length +
      (counts.map fun count : Nat => (count : Int) - 1).sum := by
  induction realizes with
  | nil offset slots => simp [atomsOf]
  | atom _ ih =>
      rw [ih, atomsOf_cons_atom]
      simp only [List.length_append, List.length_cons, List.length_nil]
      omega
  | quantifier _ _ _ _ ih =>
      rw [ih, atomsOf_cons_quantifier, List.map_cons, List.sum_cons]
      simp only [List.length_append, List.length_replicate, List.length_cons, List.length_nil]
      omega

/-- No construct adds more slots than a quantifier within the limit can. -/
theorem Realizes.length_le {limits : Limits} {offset : Nat} {constructs : List Construct}
    {slots result : List Slot} {counts : List Nat}
    (realizes : Realizes limits offset constructs slots counts result) :
    result.length ≤ slots.length + constructs.length * max 1 (limits.repeatLimit - 1) := by
  generalize greatest : max 1 (limits.repeatLimit - 1) = most
  have positive : 0 < most := by omega
  have added : (counts.map fun count : Nat => (count : Int) - 1).sum ≤
      counts.length * (most : Int) := by
    have each : ∀ more ∈ counts.map fun count : Nat => (count : Int) - 1, more ≤ (most : Int) := by
      intro more member
      obtain ⟨count, counted, rfl⟩ := List.mem_map.mp member
      have within := realizes.count_le count counted
      omega
    simpa using List.sum_le_card_nsmul _ _ each
  have atoms : (atomsOf constructs).length ≤ (atomsOf constructs).length * most :=
    Nat.le_mul_of_pos_right _ positive
  have shares : (atomsOf constructs).length * most + counts.length * most =
      constructs.length * most := by
    rw [← Nat.add_mul, ← length_atomsOf_add_length_quantifiersOf, realizes.admits.length_eq]
  have accounted := realizes.length_eq
  rw [← Int.natCast_mul] at added
  omega

/-- A pattern has to start with an atom, which adds one slot only. -/
theorem Realizes.length_le_of_textOf {limits : Limits} {offset : Nat}
    {constructs : List Construct} {result : List Slot} {counts : List Nat}
    (realizes : Realizes limits offset constructs [] counts result) :
    result.length ≤
      1 + ((textOf constructs).length - 1) * max 1 (limits.repeatLimit - 1) := by
  generalize start : ([] : List Slot) = slots at realizes
  cases realizes with
  | nil =>
      rw [← start]
      exact Nat.zero_le _
  | @atom _ part rest _ _ _ onward =>
      subst start
      have behind := onward.length_le
      have characters : rest.length ≤ (textOf (.atom part :: rest)).length - 1 := by
        have both := length_le_length_textOf (.atom part :: rest)
        rw [List.length_cons] at both
        omega
      exact Nat.le_trans behind (Nat.add_le_add_left (Nat.mul_le_mul_right _ characters) 1)
  | quantifier => exact absurd start (by simp)

/-! ## The greatest counts -/

/-- The source whose words are all ones. -/
def onesWords : CyclicWords :=
  { first := 0xffffffffffffffff, others := [] }

namespace Compilation

theorem chooseCount_onesWords {lower upper : Nat} (ordered : lower ≤ upper)
    (wide : upper < WordSize.wide.range) :
    chooseCount lower upper onesWords = (upper, onesWords) := by
  have last (size : WordSize) : Uniform.drawWord size onesWords = (size.range - 1, onesWords) := by
    cases size <;> rfl
  unfold chooseCount
  split
  · rename_i single
    rw [single]
  · exact Uniform.between_of_drawWord_last ordered wide (last _)

end Compilation

/-- A character and plus signs behind it. -/
def plusRow (count : Nat) : List Construct :=
  .atom (.literal 'a') :: List.replicate count (.quantifier .plus)

theorem textOf_plusRow (count : Nat) :
    textOf (plusRow count) = 'a' :: List.replicate count '+' := by
  rw [plusRow, textOf_cons, textOf, List.flatMap_replicate]
  simp [Construct.text, Atom.text, Quantifier.text, List.flatten_replicate_singleton]

theorem splits_plusRow (count : Nat) :
    Splits ('a' :: List.replicate count '+') (plusRow count) := by
  rw [← textOf_plusRow]
  apply splits_textOf
  intro construct member rest
  rcases List.mem_cons.mp member with rfl | plus
  · exact .inl (by decide)
  · rw [List.eq_of_mem_replicate plus]
    trivial

/-- Words that are all ones give every plus sign the upper bound of open quantifiers. -/
theorem drawnCounts_pluses {limits : Limits} (ordered : 1 ≤ limits.openUpper)
    (wide : limits.openUpper < WordSize.wide.range) (count : Nat) :
    drawnCounts limits (List.replicate count (.quantifier .plus)) onesWords =
      (List.replicate count limits.openUpper, onesWords) := by
  induction count with
  | zero => rfl
  | succ count ih =>
      have chosen : chooseCount Quantifier.plus.bounds.lower
          (upperBound limits Quantifier.plus.bounds) onesWords = (limits.openUpper, onesWords) :=
        chooseCount_onesWords ordered wide
      simp only [List.replicate_succ, drawnCounts, chosen, ih]

/-- Plus signs behind a slot put more copies of it behind each other. -/
theorem realizes_pluses {limits : Limits} (ordered : 1 ≤ limits.openUpper)
    (limited : limits.openUpper ≤ limits.repeatLimit) (slot : Slot) (offset copies count : Nat) :
    ∃ result, Realizes limits offset (List.replicate count (.quantifier .plus))
      (List.replicate (copies + 1) slot) (List.replicate count limits.openUpper) result := by
  induction count generalizing offset copies with
  | zero => exact ⟨_, .nil offset _⟩
  | succ count ih =>
      have more : copies + limits.openUpper = copies + (limits.openUpper - 1) + 1 := by omega
      obtain ⟨result, onward⟩ := ih (offset + Quantifier.plus.text.length)
        (copies + (limits.openUpper - 1))
      rw [← more, ← List.replicate_append_replicate] at onward
      rw [List.replicate_succ' (n := copies), List.replicate_succ, List.replicate_succ]
      exact ⟨result, .quantifier ⟨ordered, limited⟩ ordered (Nat.le_refl _) onward⟩

namespace Compilation

variable {σ : Type} [EntropySource σ]

/-- With words that are all ones, every plus sign adds as many slots as the limits allow. -/
theorem exists_ofPattern_plusRow (limits : Limits) (ordered : 1 ≤ limits.openUpper)
    (limited : limits.openUpper ≤ limits.repeatLimit)
    (reservable : limits.repeatLimit ≤ limits.capacity) (count : Nat) :
    ∃ template,
      (ofPattern limits (String.ofList ('a' :: List.replicate count '+')) onesWords).outcome =
        .ok template ∧ template.size = 1 + count * (limits.openUpper - 1) := by
  have held := limits.capacity_lt
  have wide : limits.openUpper < WordSize.wide.range := by omega
  have splits : Splits (String.ofList ('a' :: List.replicate count '+')).toList
      (plusRow count) := by
    rw [String.toList_ofList]
    exact splits_plusRow count
  obtain ⟨result, onward⟩ := realizes_pluses ordered limited ⟨.single 'a', 0⟩ 1 0 count
  have realizes : Realizes limits 0 (plusRow count) []
      (drawnCounts limits (plusRow count) onesWords).1 result := by
    rw [plusRow, drawnCounts, drawnCounts_pluses ordered wide]
    exact .atom onward
  refine ⟨_, congrArg Compilation.outcome (ofPattern_of_realizes reservable splits realizes), ?_⟩
  have accounted := onward.length_eq
  have atoms : (atomsOf (List.replicate count (.quantifier .plus))).length = 0 := by
    simp [atomsOf, Construct.atom?]
  have added : ((count * (limits.openUpper - 1) : Nat) : Int) =
      count * ((limits.openUpper : Int) - 1) := by
    push_cast [ordered]
    rfl
  rw [atoms, List.map_replicate, List.sum_replicate, nsmul_eq_mul, ← added] at accounted
  simp only [List.length_replicate] at accounted
  change result.toArray.size = _
  rw [List.size_toArray]
  omega

/-- A compiled template has a slot for every atom of its pattern and, for every quantifier, one
slot less than it is repeated, its number of repetitions lying within its bounds.  So an empty
pattern has no slot, and one of `n` characters under the limit `l` has no more than
`1 + (n - 1) * max 1 (l - 1)`, whatever the source and the upper bound of open quantifiers.  For
every length and every limit from two on that the memory can hold, a pattern has that many. -/
theorem size_of_outcome_eq_ok :
    (∀ (σ : Type) [EntropySource σ] (limits : Limits) (pattern : String) (source : σ)
        (template : Template), (ofPattern limits pattern source).outcome = .ok template →
      (∃ constructs counts, Splits pattern.toList constructs ∧
        counts = (drawnCounts limits constructs source).1 ∧
        Realizes limits 0 constructs [] counts template.toList ∧
        List.Forall₂ (Quantifier.Admits limits) (quantifiersOf constructs) counts ∧
        (template.size : Int) = (atomsOf constructs).length +
          (counts.map fun count : Nat => (count : Int) - 1).sum) ∧
      (pattern.toList = [] → template.size = 0) ∧
      template.size ≤
        1 + (pattern.toList.length - 1) * max 1 (limits.repeatLimit - 1)) ∧
    ∀ [Memory] length limit, 1 ≤ length → 2 ≤ limit → limit ≤ Memory.capacity →
      ∃ template,
        (ofPattern { openUpper := limit, repeatLimit := limit }
          (String.ofList ('a' :: List.replicate (length - 1) '+')) onesWords).outcome =
          .ok template ∧
        template.size = 1 + (length - 1) * max 1 (limit - 1) := by
  constructor
  · intro σ _ limits pattern source template compiled
    obtain ⟨constructs, splits, realizes, _⟩ := exists_of_ofPattern_eq_ok compiled
    have accounted := realizes.length_eq
    have bounded := realizes.length_le_of_textOf
    rw [Template.length_toList] at accounted bounded
    rw [← splits.eq_textOf] at bounded
    refine ⟨⟨constructs, _, splits, rfl, realizes, realizes.admits, by simpa using accounted⟩,
      ?_, bounded⟩
    intro empty
    have fewer := length_le_length_textOf constructs
    rw [← splits.eq_textOf, empty] at fewer
    obtain rfl := List.eq_nil_of_length_eq_zero (Nat.le_zero.mp fewer)
    simpa [atomsOf, drawnCounts] using accounted
  · intro _ length limit _ two held
    have most : max 1 (limit - 1) = limit - 1 := Nat.max_eq_right (by omega)
    rw [most]
    exact exists_ofPattern_plusRow ⟨limit, limit⟩ (Nat.le_of_succ_le two) (Nat.le_refl limit)
      held (length - 1)

/-- A slot that is dropped and a slot that is tripled, and a pattern of four characters that has as
many slots as the limit allows. -/
theorem size_of_dropped_and_tripled :
    let words : CyclicWords := ⟨0, [], []⟩
    let template : Template :=
      ⟨#[⟨.single 'a', 0⟩, ⟨.single 'c', 3⟩, ⟨.single 'c', 3⟩, ⟨.single 'c', 3⟩]⟩
    (ofPattern {} "ab?c\x7b3\x7d" words).outcome = .ok template ∧
      (∃ constructs counts, Splits "ab?c\x7b3\x7d".toList constructs ∧
        Realizes {} 0 constructs [] counts template.toList ∧
        (template.size : Int) = (atomsOf constructs).length +
          (counts.map fun count : Nat => (count : Int) - 1).sum) ∧
      template.size ≤ 1 + ("ab?c\x7b3\x7d".toList.length - 1) * max 1 (65536 - 1) ∧
      ∃ most, (ofPattern { openUpper := 3, repeatLimit := 3 } (String.ofList ['a', '+', '+', '+'])
        onesWords).outcome = .ok most ∧ most.size = 7 := by
  intro words template
  have compiled : (ofPattern {} "ab?c\x7b3\x7d" words).outcome = .ok template := by
    decide +kernel
  obtain ⟨constructs, counts, splits, _, realizes, _, accounted⟩ :=
    (size_of_outcome_eq_ok.1 CyclicWords {} _ words template compiled).1
  have bounded := (size_of_outcome_eq_ok.1 CyclicWords {} _ words template compiled).2.2
  exact ⟨compiled, ⟨constructs, counts, splits, realizes, accounted⟩, bounded,
    size_of_outcome_eq_ok.2 4 3 (by decide) (by decide) (by decide)⟩

end Compilation

end PatternDraw
