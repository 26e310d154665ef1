import PatternDraw.Proofs.Compiling.Realization

/-!
# How a compilation ends

The pieces of a reading are taken in order until they are used up or a quantifier is refused.
If they are used up, the compilation succeeds, or it ends with the fault at which reading had
stopped.  In every case the warnings are those about the pieces before the end.
-/

namespace PatternDraw.Compilation

variable {σ : Type} [EntropySource σ]

/-- The ways in which the compilation of pieces can end. -/
inductive Ending (limits : Limits) (halt : Option Halt) (pieces : List Piece)
    (template : Template) (source : σ) : Compilation σ → Prop
  | complete {result : Template} {rest : σ} (whole : halt = none)
      (taken : ofPieces limits none pieces template source =
        ⟨.ok result, allWarnings pieces, rest⟩) :
      Ending limits halt pieces template source ⟨.ok result, allWarnings pieces, rest⟩
  | halted {stop : Halt} {result : Template} {rest : σ} (stopped : halt = some stop)
      (taken : ofPieces limits none pieces template source =
        ⟨.ok result, allWarnings pieces, rest⟩) :
      Ending limits halt pieces template source
        ⟨.error stop.fault, allWarnings pieces ++ stop.warnings, rest⟩
  | refused {before behind : List Piece} {offset : Nat} {part : Quantifier}
      {reached : Template} {middle rest : σ} {fault : Fault}
      (located : pieces = before ++ ⟨offset, .quantifier part⟩ :: behind)
      (taken : ofPieces limits none before template source =
        ⟨.ok reached, allWarnings before, middle⟩)
      (refusal : Refusal limits offset part.bounds reached middle fault rest) :
      Ending limits halt pieces template source ⟨.error fault, allWarnings before, rest⟩

theorem Ending.cons {limits : Limits} {halt : Option Halt} {piece : Piece} {pieces : List Piece}
    {template next : Template} {source after : σ} {compilation : Compilation σ}
    (applied : applyPiece limits piece template source = (.ok next, after))
    (ending : Ending limits halt pieces next after compilation) :
    Ending limits halt (piece :: pieces) template source
      (prependWarnings piece.warnings compilation) := by
  cases ending with
  | complete whole taken =>
      refine .complete whole ?_
      rw [ofPieces_of_ok applied, taken]
      rfl
  | @halted stop result rest stopped taken =>
      have takenAll : ofPieces limits none (piece :: pieces) template source =
          ⟨.ok result, allWarnings (piece :: pieces), rest⟩ := by
        rw [ofPieces_of_ok applied, taken]
        rfl
      simpa [allWarnings, prependWarnings] using Ending.halted stopped takenAll
  | @refused before behind offset part reached middle rest fault located taken refusal =>
      have locatedBehind : piece :: pieces =
          (piece :: before) ++ ⟨offset, .quantifier part⟩ :: behind :=
        congrArg (piece :: ·) located
      refine .refused locatedBehind ?_ refusal
      rw [ofPieces_of_ok applied, taken]
      rfl

/-- Every compilation ends in one of these ways. -/
theorem ending_ofPieces (limits : Limits) (halt : Option Halt) (pieces : List Piece)
    (template : Template) (source : σ) :
    Ending limits halt pieces template source (ofPieces limits halt pieces template source) := by
  induction pieces generalizing template source with
  | nil =>
      cases halt with
      | none => exact .complete rfl rfl
      | some stop => exact .halted rfl rfl
  | cons piece rest ih =>
      cases applied : applyPiece limits piece template source with
      | mk outcome after =>
          cases outcome with
          | ok next =>
              rw [ofPieces_of_ok applied]
              exact (ih next after).cons applied
          | error fault =>
              rw [ofPieces_of_error applied]
              rcases piece with ⟨offset, part | part⟩
              · cases applied
              · have located : ⟨offset, .quantifier part⟩ :: rest =
                    [] ++ (⟨offset, .quantifier part⟩ : Piece) :: rest := rfl
                exact .refused located rfl (refusal_of_repeatLast applied)

theorem ending_ofPattern (limits : Limits) (pattern : String) (source : σ) :
    Ending limits (Scan.ofPattern pattern.toList).halt (Scan.ofPattern pattern.toList).pieces
      .empty source (ofPattern limits pattern source) :=
  ending_ofPieces _ _ _ _ _

/-- The warnings are the first ones of those that reading alone gives. -/
theorem Ending.warnings_isPrefixOf {limits : Limits} {halt : Option Halt} {pieces : List Piece}
    {template : Template} {source : σ} {compilation : Compilation σ}
    (ending : Ending limits halt pieces template source compilation) :
    compilation.warnings <+: allWarnings pieces ++ (halt.map Halt.warnings).getD [] := by
  cases ending with
  | complete whole taken => exact List.prefix_append _ _
  | halted stopped taken =>
      subst stopped
      exact List.prefix_rfl
  | refused located taken refusal =>
      rw [located, allWarnings, allWarnings, List.flatMap_append, List.append_assoc]
      exact List.prefix_append _ _

end PatternDraw.Compilation
