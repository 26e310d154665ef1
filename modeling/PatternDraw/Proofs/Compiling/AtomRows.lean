import PatternDraw.Proofs.Compiling.Realization
import PatternDraw.Proofs.Reading.Splitting

/-!
# Rows of atoms

A pattern without quantifiers asks for no choice of its own.  Whatever the limits are, it
compiles without a draw to one slot for each of its atoms, in their order.
-/

namespace PatternDraw

/-- The slots of atoms that follow each other from the given offset on. -/
def slotsOf (offset : Nat) : List Atom → List Slot
  | [] => []
  | part :: rest => ⟨part.alphabet, offset⟩ :: slotsOf (offset + part.text.length) rest

/-- The text of a row of atoms. -/
def rowText (parts : List Atom) : List Char :=
  textOf (parts.map Construct.atom)

@[simp]
theorem rowText_cons (part : Atom) (rest : List Atom) :
    rowText (part :: rest) = part.text ++ rowText rest :=
  rfl

namespace Compilation

variable {σ : Type} [EntropySource σ]

/-- Atoms add their slots to a template, one after the other. -/
theorem ofPieces_atoms (limits : Limits) (offset : Nat) (parts : List Atom) (template : Template)
    (source : σ) :
    ofPieces limits none (place offset (parts.map Construct.atom)) template source =
      ⟨.ok ⟨(template.toList ++ slotsOf offset parts).toArray⟩,
        allWarnings (place offset (parts.map Construct.atom)), source⟩ := by
  induction parts generalizing offset template with
  | nil =>
      have unchanged : (⟨(template.toList ++ []).toArray⟩ : Template) = template := by
        simp [Template.toList]
      rw [slotsOf, unchanged]
      rfl
  | cons part rest ih =>
      have behind := ih (offset + part.text.length) (template.push ⟨part.alphabet, offset⟩)
      rw [Template.toList_push, List.append_assoc, List.singleton_append] at behind
      exact congrArg (prependWarnings _) behind

/-- A pattern that splits into atoms compiles to their slots without a draw. -/
theorem ofPattern_of_splits_atoms {pattern : String} {parts : List Atom}
    (splits : Splits pattern.toList (parts.map Construct.atom)) (limits : Limits) (source : σ) :
    ofPattern limits pattern source =
      ⟨.ok ⟨(slotsOf 0 parts).toArray⟩, allWarnings (place 0 (parts.map Construct.atom)),
        source⟩ := by
  rw [ofPattern, ofScan, Scan.ofPattern_of_splits splits]
  exact ofPieces_atoms limits 0 parts .empty source

/-- Atoms that stand before any text compile to their slots without a draw. -/
theorem ofPattern_of_atoms {pattern : String} {parts : List Atom}
    (spelled : pattern.toList = rowText parts)
    (stand : ∀ part ∈ parts, ∀ rest, part.StandsBefore rest) (limits : Limits) (source : σ) :
    ofPattern limits pattern source =
      ⟨.ok ⟨(slotsOf 0 parts).toArray⟩, allWarnings (place 0 (parts.map Construct.atom)),
        source⟩ := by
  have constructsStand : ∀ construct ∈ parts.map Construct.atom, ∀ rest,
      construct.StandsBefore rest := by
    intro construct member rest
    obtain ⟨part, partMember, rfl⟩ := List.mem_map.mp member
    exact stand part partMember rest
  refine ofPattern_of_splits_atoms ?_ limits source
  rw [spelled]
  exact splits_textOf constructsStand

end Compilation

end PatternDraw
