import PatternDraw.Proofs.Compiling.Concatenation
import PatternDraw.Proofs.Compiling.Ending

/-!
# Faults that more text cannot remove

A compilation fails at the first place where it cannot go on, and it has not looked at the text
behind that place, except for a closing brace that a loose opening brace would have to meet.
More text behind a pattern that fails therefore leaves the fault, the warnings and the draws as
they are.  Only an escape or a bracket that the end of the pattern cuts short can be completed.
-/

namespace PatternDraw

/-- The fault is not that of an escape or a bracket that the end of the pattern cuts short. -/
def Fault.IsFinal : Fault → Prop
  | unterminatedEscape _ => False
  | unmatchedBracket _ => False
  | _ => True

/-- What obstructs a text obstructs every longer one, unless its end is what obstructs it. -/
theorem Scan.Obstructs.append {start : Nat} {text : List Char} {halt : Halt}
    (obstructs : Obstructs start text halt) (final : halt.fault.IsFinal) (more : List Char) :
    Obstructs start (text ++ more) halt := by
  cases obstructs with
  | escape => exact final.elim
  | openBracket => exact final.elim
  | hexEscape misspelled => exact .hexEscape misspelled
  | emptyBracket => exact .emptyBracket
  | foreignBody allowed foreign unclosed =>
      rw [List.append_assoc, List.cons_append]
      exact .foreignBody allowed foreign unclosed
  | meaninglessBody allowed meaningless =>
      rw [List.append_assoc, List.cons_append]
      exact .meaninglessBody allowed meaningless

namespace Compilation

variable {σ : Type} [EntropySource σ]

/-! ## Where a compilation fails -/

/-- The pieces decide what a compilation comes to: nothing behind them makes a difference. -/
def Settles (limits : Limits) (pieces : List Piece) (template : Template) (source : σ)
    (compilation : Compilation σ) : Prop :=
  ∀ halt more, ofPieces limits halt (pieces ++ more) template source = compilation

theorem Settles.cons {limits : Limits} {piece : Piece} {pieces : List Piece}
    {template next : Template} {source after : σ} {compilation : Compilation σ}
    (applied : applyPiece limits piece template source = (.ok next, after))
    (settles : Settles limits pieces next after compilation) :
    Settles limits (piece :: pieces) template source
      (prependWarnings piece.warnings compilation) := by
  intro halt more
  rw [List.cons_append, ofPieces_of_ok applied, settles]

/-- A piece that fails settles the compilation. -/
theorem settles_of_error {limits : Limits} {piece : Piece} {template : Template} {source after : σ}
    {fault : Fault} (applied : applyPiece limits piece template source = (.error fault, after)) :
    Settles limits [piece] template source ⟨.error fault, piece.warnings, after⟩ := by
  intro halt more
  exact ofPieces_of_error applied more

/-- A compilation that fails takes all of its pieces and stops where reading stopped, or the first
of its pieces, about which are all of its warnings, settle it. -/
theorem halted_or_settled {limits : Limits} {halt : Option Halt} {pieces : List Piece}
    {template : Template} {source : σ} {fault : Fault}
    (failed : (ofPieces limits halt pieces template source).outcome = .error fault) :
    (∃ stop, halt = some stop ∧ stop.fault = fault ∧
      allWarnings pieces ⊆ (ofPieces limits halt pieces template source).warnings) ∨
    ∃ before behind, pieces = before ++ behind ∧
      (ofPieces limits halt pieces template source).warnings = allWarnings before ∧
      Settles limits before template source (ofPieces limits halt pieces template source) := by
  induction pieces generalizing template source with
  | nil =>
      cases halt with
      | none => cases failed
      | some stop =>
          cases failed
          exact .inl ⟨stop, rfl, rfl, List.nil_subset _⟩
  | cons piece rest ih =>
      cases applied : applyPiece limits piece template source with
      | mk outcome after =>
          cases outcome with
          | error own =>
              rw [ofPieces_of_error applied]
              refine .inr ⟨[piece], rest, rfl, ?_, settles_of_error applied⟩
              simp [allWarnings]
          | ok next =>
              rw [ofPieces_of_ok applied] at failed ⊢
              rcases ih failed with ⟨stop, stopped, isFault, warned⟩ |
                ⟨before, behind, rfl, warned, settles⟩
              · left
                refine ⟨stop, stopped, isFault, ?_⟩
                exact List.append_subset.mpr ⟨List.subset_append_left _ _,
                  List.subset_append_of_subset_right _ warned⟩
              · right
                refine ⟨piece :: before, behind, rfl, ?_, settles.cons applied⟩
                exact congrArg (piece.warnings ++ ·) warned

/-- Pieces that fail on their own settle the compilation. -/
theorem settles_of_ofPieces_error {limits : Limits} {pieces : List Piece} {template : Template}
    {source : σ} {fault : Fault}
    (failed : (ofPieces limits none pieces template source).outcome = .error fault) :
    Settles limits pieces template source (ofPieces limits none pieces template source) := by
  rcases halted_or_settled failed with ⟨stop, stopped, _⟩ | ⟨before, behind, rfl, _, settles⟩
  · cases stopped
  · intro halt more
    rw [List.append_assoc]
    exact settles halt (behind ++ more)

/-! ## More text behind a pattern that fails -/

/-- Errors are final.  If a pattern fails to compile, other than for an escape or a bracket that
its end cuts short, and no opening brace that it keeps literally meets a closing brace behind it,
then more text behind the pattern changes nothing: the fault, the warnings before it and what is
left of the source are the same. -/
theorem ofPattern_append_of_error (limits : Limits) (first second : String) (source : σ)
    (fault : Fault) (failed : (ofPattern limits first source).outcome = .error fault)
    (final : fault.IsFinal)
    (apart : KeptApart (ofPattern limits first source).warnings second.toList) :
    ofPattern limits (first ++ second) source = ofPattern limits first source := by
  have found := Scan.found_ofPattern first.toList
  unfold ofPattern ofScan at failed apart ⊢
  rw [String.toList_append]
  generalize Scan.ofPattern first.toList = scan at found failed apart ⊢
  rcases halted_or_settled failed with ⟨stop, stopped, rfl, warned⟩ |
    ⟨before, behind, pieces, warned, settles⟩
  · cases found with
    | complete => cases stopped
    | obstructed splits obstructs =>
        cases stopped
        have joined := splits.append (apart.unclosed warned)
        rw [Nat.zero_add] at obstructs
        rw [Scan.ofPattern_eq_readFrom, Scan.readFrom_of_splitsUpTo joined, Nat.zero_add,
          Scan.readFrom_of_obstructs (obstructs.append final second.toList), List.append_nil]
  · obtain ⟨constructs, rest, splits, piecesEq⟩ := found.exists_splitsUpTo
    obtain ⟨earlier, later, rfl, rfl, _⟩ := exists_of_place_eq_append (piecesEq.symm.trans pieces)
    obtain ⟨middle, earlierSplits, _⟩ := splits.of_append
    rw [warned] at apart
    have joined := earlierSplits.append (apart.unclosed (List.Subset.refl _))
    rw [Scan.ofPattern_eq_readFrom, Scan.readFrom_of_splitsUpTo joined]
    exact settles _ _

/-- A bad digit behind a bracket, and a quantifier whose slot has been dropped, in front of a text
with braces. -/
theorem ofPattern_append_of_two_errors :
    let words : CyclicWords := ⟨0, [], []⟩
    (ofPattern {} "[(-]\\x4g" words).outcome = .error (.invalidHexEscape 4 "4g") ∧
      ofPattern {} ("[(-]\\x4g" ++ "\x7b2\x7d[") words = ofPattern {} "[(-]\\x4g" words ∧
      (ofPattern {} "(?\x7b2\x7d[" words).outcome = .error (.danglingQuantifier 2) ∧
      ofPattern {} ("(?\x7b2\x7d[" ++ "a]\x7d") words = ofPattern {} "(?\x7b2\x7d[" words := by
  intro words
  have misspelled : (ofPattern {} "[(-]\\x4g" words).outcome =
      .error (.invalidHexEscape 4 "4g") := by decide +kernel
  have dangling : (ofPattern {} "(?\x7b2\x7d[" words).outcome =
      .error (.danglingQuantifier 2) := by decide +kernel
  refine ⟨misspelled, ?_, dangling, ?_⟩
  · apply ofPattern_append_of_error {} _ _ words _ misspelled trivial
    exact .inl (by decide +kernel)
  · apply ofPattern_append_of_error {} _ _ words _ dangling trivial
    exact .inl (by decide +kernel)

end Compilation

end PatternDraw
