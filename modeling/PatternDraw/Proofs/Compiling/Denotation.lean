import PatternDraw.Entropy.Cyclic
import PatternDraw.Proofs.Compiling.Realization
import PatternDraw.Proofs.Reading.Splitting

/-!
# What a pattern denotes

A pattern is compiled exactly if it splits into constructs that the counts drawn from the
source realize, and the template that they realize is the one that is compiled.  Grammar and
realization are stated without the compiler, so nothing else can make a pattern fail and
nothing else can come out of it.
-/

namespace PatternDraw.Compilation

variable {σ : Type} [EntropySource σ]

/-- A split pattern whose counts lead to slots compiles to these slots. -/
theorem ofPattern_of_realizes {limits : Limits}
    (reservable : limits.repeatLimit ≤ limits.capacity) {pattern : String}
    {constructs : List Construct} {source : σ} {result : List Slot}
    (splits : Splits pattern.toList constructs)
    (realizes : Realizes limits 0 constructs [] (drawnCounts limits constructs source).1 result) :
    ofPattern limits pattern source =
      ⟨.ok ⟨result.toArray⟩, allWarnings (place 0 constructs),
        (drawnCounts limits constructs source).2⟩ := by
  rw [ofPattern, ofScan, Scan.ofPattern_of_splits splits]
  rw [← Template.toList_empty] at realizes
  exact ofPieces_of_realizes reservable realizes

/-- A pattern that compiles splits, and its counts lead to the slots of the template. -/
theorem exists_of_ofPattern_eq_ok {limits : Limits} {pattern : String} {source : σ}
    {template : Template} (compiled : (ofPattern limits pattern source).outcome = .ok template) :
    ∃ constructs, Splits pattern.toList constructs ∧
      Realizes limits 0 constructs [] (drawnCounts limits constructs source).1 template.toList ∧
      ofPattern limits pattern source =
        ⟨.ok template, allWarnings (place 0 constructs),
          (drawnCounts limits constructs source).2⟩ := by
  cases read : Scan.ofPattern pattern.toList with
  | mk pieces halt =>
      rw [ofPattern, ofScan, read] at compiled ⊢
      have complete := halt_eq_none_of_ofPieces compiled
      subst complete
      obtain ⟨constructs, splits, rfl⟩ := Scan.ofPattern_eq_iff_splits.mp read
      obtain ⟨realizes, compiledEq⟩ := realizes_of_ofPieces compiled
      exact ⟨constructs, splits, realizes, compiledEq⟩

/-- The split of a pattern is unique.  A pattern is compiled to a template exactly if it splits
into well-formed constructs and the counts that the source gives to its quantifiers, from left
to right, realize that template: all bounds are in order and within the limit, and every
quantifier meets a slot. -/
theorem outcome_ofPattern_eq_ok_iff (limits : Limits)
    (reservable : limits.repeatLimit ≤ limits.capacity) (pattern : String) (source : σ) :
    (∀ first second, Splits pattern.toList first → Splits pattern.toList second →
      first = second) ∧
    ∀ template, (ofPattern limits pattern source).outcome = .ok template ↔
      ∃ constructs, Splits pattern.toList constructs ∧
        Realizes limits 0 constructs [] (drawnCounts limits constructs source).1
          template.toList := by
  refine ⟨fun first second => Scan.splits_unique, ?_⟩
  intro template
  constructor
  · intro compiled
    obtain ⟨constructs, splits, realizes, _⟩ := exists_of_ofPattern_eq_ok compiled
    exact ⟨constructs, splits, realizes⟩
  · rintro ⟨constructs, splits, realizes⟩
    rw [ofPattern_of_realizes reservable splits realizes]
    exact congrArg Except.ok (Template.toList_injective (by simp [Template.toList]))

/-- A slot that is dropped and a bracket that is repeated. -/
theorem splits_and_realizes_of_zero_words :
    ({} : Limits).repeatLimit ≤ ({} : Limits).capacity ∧
      ∃ constructs, Splits "x?[a-c]\x7b2\x7d".toList constructs ∧
        Realizes {} 0 constructs []
          (drawnCounts {} constructs (⟨0, [], []⟩ : CyclicWords)).1
          [⟨.ofString "abc", 2⟩, ⟨.ofString "abc", 2⟩] :=
  ⟨by decide, ((outcome_ofPattern_eq_ok_iff {} (by decide) "x?[a-c]\x7b2\x7d"
    (⟨0, [], []⟩ : CyclicWords)).2 ⟨#[⟨.ofString "abc", 2⟩, ⟨.ofString "abc", 2⟩]⟩).mp
      (by decide +kernel)⟩

end PatternDraw.Compilation
