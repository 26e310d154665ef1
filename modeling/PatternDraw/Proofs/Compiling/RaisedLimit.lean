import PatternDraw.Entropy.Cyclic
import PatternDraw.Proofs.Compiling.Realization

/-!
# Raising the limit

The limit on repetitions is looked at by one check of every quantifier and is otherwise only
reported.  Two compilations of a pattern under limits of which one is greater therefore take the
same steps with the same draws, up to the first quantifier that is too large for the smaller one.
-/

namespace PatternDraw

/-- The second limits fill in open bounds as the first ones do, go with as much memory and allow as
much repetition. -/
structure Limits.RaisedTo (limits higher : Limits) : Prop where
  openUpper_eq : higher.openUpper = limits.openUpper
  repeatLimit_le : limits.repeatLimit ≤ higher.repeatLimit
  capacity_eq : higher.capacity = limits.capacity

namespace Compilation

variable {σ : Type} [EntropySource σ]

/-! ## One construct -/

/-- A quantifier is too large for the smaller limit, or the greater one makes no difference. -/
theorem repeatLast_raised {limits higher : Limits} (raised : limits.RaisedTo higher)
    (offset : Nat) (bounds : Bounds) (template : Template) (source : σ) :
    (∃ count rest, repeatLast limits offset bounds template source =
      (.error (.repeatTooLarge offset count limits.repeatLimit), rest)) ∨
    repeatLast higher offset bounds template source =
      repeatLast limits offset bounds template source := by
  unfold repeatLast
  rw [raised.openUpper_eq, raised.capacity_eq]
  dsimp only
  split
  · exact .inr rfl
  · split
    · exact .inl ⟨_, _, rfl⟩
    · rename_i limited
      have limitedHigher : ¬ higher.repeatLimit < bounds.upper.getD limits.openUpper := by
        have greater := raised.repeatLimit_le
        omega
      rw [if_neg limitedHigher]
      split
      · exact .inr rfl
      · -- What memory cannot hold is reported together with the limit, so the two faults differ.
        split
        · exact .inl ⟨_, _, rfl⟩
        · exact .inr rfl

theorem applyPiece_raised {limits higher : Limits} (raised : limits.RaisedTo higher)
    (piece : Piece) (template : Template) (source : σ) :
    (piece.warnings = [] ∧ ∃ count rest, applyPiece limits piece template source =
      (.error (.repeatTooLarge piece.offset count limits.repeatLimit), rest)) ∨
    applyPiece higher piece template source = applyPiece limits piece template source := by
  rcases piece with ⟨offset, part | part⟩
  · exact .inr rfl
  · rcases repeatLast_raised raised offset part.bounds template source with tooLarge | same
    · exact .inl ⟨rfl, tooLarge⟩
    · exact .inr same

/-! ## A whole run -/

/-- A run stops at a quantifier that is too large for the smaller limit, with warnings that the
run under the greater one gives as well, or the two runs are the same. -/
theorem ofPieces_raised {limits higher : Limits} (raised : limits.RaisedTo higher)
    (halt : Option Halt) (pieces : List Piece) (template : Template) (source : σ) :
    ((∃ offset count, (ofPieces limits halt pieces template source).outcome =
        .error (.repeatTooLarge offset count limits.repeatLimit)) ∧
      (ofPieces limits halt pieces template source).warnings <+:
        (ofPieces higher halt pieces template source).warnings) ∨
    ofPieces higher halt pieces template source = ofPieces limits halt pieces template source := by
  induction pieces generalizing template source with
  | nil => exact .inr rfl
  | cons piece rest ih =>
      rcases applyPiece_raised raised piece template source with
        ⟨unwarned, count, after, tooLarge⟩ | same
      · left
        rw [ofPieces_of_error tooLarge, unwarned]
        exact ⟨⟨_, _, rfl⟩, List.nil_prefix⟩
      · cases applied : applyPiece limits piece template source with
        | mk outcome after =>
            rw [applied] at same
            cases outcome with
            | error fault =>
                rw [ofPieces_of_error applied, ofPieces_of_error same]
                exact .inr rfl
            | ok next =>
                rw [ofPieces_of_ok applied, ofPieces_of_ok same]
                rcases ih next after with ⟨tooLarge, warned⟩ | onward
                · exact .inl ⟨tooLarge, (List.prefix_append_right_inj _).mpr warned⟩
                · rw [onward]
                  exact .inr rfl

/-- The limit is a guard and nothing else.  A pattern that is compiled under a limit fails because
a quantifier is too large for it, with warnings that a greater limit leads to as well, or it is
compiled in the same way under every greater limit: to the same template or fault, with the same
warnings and the same draws.  So a greater limit changes no compilation that succeeds, and none
that fails for another reason. -/
theorem ofPattern_raised (limits higher : Limits) (raised : limits.RaisedTo higher)
    (pattern : String) (source : σ) :
    ((∃ offset count, (ofPattern limits pattern source).outcome =
          .error (.repeatTooLarge offset count limits.repeatLimit)) ∧
        (ofPattern limits pattern source).warnings <+:
          (ofPattern higher pattern source).warnings ∨
      ofPattern higher pattern source = ofPattern limits pattern source) ∧
    (∀ template, (ofPattern limits pattern source).outcome = .ok template →
      ofPattern higher pattern source = ofPattern limits pattern source) ∧
    ∀ fault, (ofPattern limits pattern source).outcome = .error fault →
      (∀ offset count limit, fault ≠ .repeatTooLarge offset count limit) →
      ofPattern higher pattern source = ofPattern limits pattern source := by
  have guarded : _ ∨ ofPattern higher pattern source = ofPattern limits pattern source :=
    ofPieces_raised raised _ _ _ source
  refine ⟨guarded, ?_, ?_⟩
  · intro template compiled
    rcases guarded with ⟨⟨offset, count, tooLarge⟩, _⟩ | same
    · cases compiled.symm.trans tooLarge
    · exact same
  · intro fault failed other
    rcases guarded with ⟨⟨offset, count, tooLarge⟩, _⟩ | same
    · cases failed.symm.trans tooLarge
      exact absurd rfl (other offset count limits.repeatLimit)
    · exact same

/-- A limit of two is enough for the one pattern, and a greater one draws the same for it; the other
pattern fails for want of a slot under both. -/
theorem ofPattern_raised_of_two :
    let words : CyclicWords := ⟨0xffffffff, [5], []⟩
    let limits : Limits := ⟨2, 2⟩
    let higher : Limits := ⟨2, 9⟩
    limits.RaisedTo higher ∧
      (ofPattern limits "a(*" words).outcome =
        .ok ⟨#[⟨.single 'a', 0⟩, ⟨.single '(', 1⟩, ⟨.single '(', 1⟩]⟩ ∧
      ofPattern higher "a(*" words = ofPattern limits "a(*" words ∧
      (ofPattern limits "a\x7b0\x7d+" words).outcome = .error (.danglingQuantifier 4) ∧
      ofPattern higher "a\x7b0\x7d+" words = ofPattern limits "a\x7b0\x7d+" words := by
  intro words limits higher
  have raised : limits.RaisedTo higher := ⟨rfl, by decide, rfl⟩
  have compiled : (ofPattern limits "a(*" words).outcome =
      .ok ⟨#[⟨.single 'a', 0⟩, ⟨.single '(', 1⟩, ⟨.single '(', 1⟩]⟩ := by decide +kernel
  have failed : (ofPattern limits "a\x7b0\x7d+" words).outcome =
      .error (.danglingQuantifier 4) := by decide +kernel
  refine ⟨raised, compiled, (ofPattern_raised limits higher raised "a(*" words).2.1 _ compiled,
    failed, (ofPattern_raised limits higher raised "a\x7b0\x7d+" words).2.2 _ failed ?_⟩
  intro offset count limit
  exact Fault.noConfusion

end Compilation

end PatternDraw
