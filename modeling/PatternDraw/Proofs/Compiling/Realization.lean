import PatternDraw.Proofs.Compiling.Repetition
import PatternDraw.Proofs.Reading.Grammar

/-!
# Templates that realize constructs

A row of constructs and one number for each of its quantifiers determine a template: an atom
adds a slot, and a quantifier puts that many copies in place of the last slot.  Compiling
realizes the constructs with the numbers that the source gives, one after the other.
-/

namespace PatternDraw

open Compilation

/-- From the given slots on, the constructs at `offset` lead to the slots `result` if their
quantifiers repeat as often as the counts say. -/
inductive Realizes (limits : Limits) :
    Nat → List Construct → List Slot → List Nat → List Slot → Prop
  | nil (offset : Nat) (slots : List Slot) : Realizes limits offset [] slots [] slots
  | atom {offset : Nat} {part : Atom} {constructs : List Construct} {slots result : List Slot}
      {counts : List Nat}
      (onward : Realizes limits (offset + part.text.length) constructs
        (slots ++ [⟨part.alphabet, offset⟩]) counts result) :
      Realizes limits offset (.atom part :: constructs) slots counts result
  | quantifier {offset : Nat} {part : Quantifier} {constructs : List Construct}
      {before result : List Slot} {slot : Slot} {count : Nat} {counts : List Nat}
      (allowed : Allowed limits part.bounds) (least : part.bounds.lower ≤ count)
      (greatest : count ≤ upperBound limits part.bounds)
      (onward : Realizes limits (offset + part.text.length) constructs
        (before ++ List.replicate count slot) counts result) :
      Realizes limits offset (.quantifier part :: constructs) (before ++ [slot]) (count :: counts)
        result

/-- A property of all slots that the atoms add is a property of all slots of the result. -/
theorem Realizes.forall_slots {limits : Limits} {start : Nat} {constructs : List Construct}
    {slots result : List Slot} {counts : List Nat}
    (realizes : Realizes limits start constructs slots counts result) {property : Slot → Prop}
    (added : ∀ offset part, (⟨offset, .atom part⟩ : Piece) ∈ place start constructs →
      property ⟨part.alphabet, offset⟩)
    (initial : ∀ slot ∈ slots, property slot) : ∀ slot ∈ result, property slot := by
  induction realizes with
  | nil => exact initial
  | atom _ ih =>
      refine ih (fun offset part member => added offset part (List.mem_cons_of_mem _ member)) ?_
      intro slot member
      rcases List.mem_append.mp member with before | last
      · exact initial slot before
      · rw [List.mem_singleton.mp last]
        exact added _ _ List.mem_cons_self
  | @quantifier _ _ _ _ _ last _ _ _ _ _ _ ih =>
      refine ih (fun offset part member => added offset part (List.mem_cons_of_mem _ member)) ?_
      intro slot member
      rcases List.mem_append.mp member with before | copy
      · exact initial slot (List.mem_append_left _ before)
      · rw [List.eq_of_mem_replicate copy]
        exact initial last (List.mem_append_right _ List.mem_cons_self)

/-- The counts determine what the constructs lead to. -/
theorem Realizes.unique {limits : Limits} {start : Nat} {constructs : List Construct}
    {slots result : List Slot} {counts : List Nat}
    (realizes : Realizes limits start constructs slots counts result) {otherResult : List Slot}
    (otherRealizes : Realizes limits start constructs slots counts otherResult) :
    result = otherResult := by
  induction realizes with
  | nil =>
      cases otherRealizes
      rfl
  | atom _ ih =>
      cases otherRealizes with
      | atom onward => exact ih onward
  | @quantifier _ _ _ before _ slot _ _ _ _ _ _ ih =>
      generalize slotsEq : before ++ [slot] = slots at otherRealizes
      cases otherRealizes with
      | quantifier _ _ _ onward =>
          obtain ⟨rfl, slotEq⟩ := List.append_inj' slotsEq rfl
          cases slotEq
          exact ih onward

namespace Compilation

variable {σ : Type} [EntropySource σ]

/-- The numbers of repetitions that a source gives to the quantifiers of a row of constructs:
the only possible one, or else the next choice. -/
def drawnCounts (limits : Limits) : List Construct → σ → List Nat × σ
  | [], source => ([], source)
  | .atom _ :: rest, source => drawnCounts limits rest source
  | .quantifier part :: rest, source =>
      let (count, source) :=
        chooseCount part.bounds.lower (upperBound limits part.bounds) source
      let (counts, source) := drawnCounts limits rest source
      (count :: counts, source)

/-- The warnings about pieces, in order. -/
def allWarnings (pieces : List Piece) : List Warning :=
  pieces.flatMap Piece.warnings

/-! ## Steps of a compilation -/

theorem ofPieces_of_ok {limits : Limits} {halt : Option Halt} {piece : Piece}
    {template next : Template} {source after : σ}
    (applied : applyPiece limits piece template source = (.ok next, after))
    (pieces : List Piece) :
    ofPieces limits halt (piece :: pieces) template source =
      prependWarnings piece.warnings (ofPieces limits halt pieces next after) := by
  simp only [ofPieces, applied]

theorem ofPieces_of_error {limits : Limits} {halt : Option Halt} {piece : Piece}
    {template : Template} {source after : σ} {fault : Fault}
    (applied : applyPiece limits piece template source = (.error fault, after))
    (pieces : List Piece) :
    ofPieces limits halt (piece :: pieces) template source =
      ⟨.error fault, piece.warnings, after⟩ := by
  simp only [ofPieces, applied]

/-- An atom adds a slot, whatever comes behind it. -/
theorem ofPieces_atom (limits : Limits) (halt : Option Halt) (offset : Nat) (part : Atom)
    (pieces : List Piece) (template : Template) (source : σ) :
    ofPieces limits halt (⟨offset, .atom part⟩ :: pieces) template source =
      prependWarnings (Piece.warnings ⟨offset, .atom part⟩)
        (ofPieces limits halt pieces (template.push ⟨part.alphabet, offset⟩) source) :=
  rfl

/-- A compilation that succeeds succeeds with its first piece and behind it. -/
theorem exists_of_ofPieces_cons_eq_ok {limits : Limits} {halt : Option Halt} {piece : Piece}
    {pieces : List Piece} {template result : Template} {source : σ}
    (compiled : (ofPieces limits halt (piece :: pieces) template source).outcome = .ok result) :
    ∃ next after, applyPiece limits piece template source = (.ok next, after) ∧
      (ofPieces limits halt pieces next after).outcome = .ok result := by
  cases applied : applyPiece limits piece template source with
  | mk outcome after =>
      cases outcome with
      | error fault =>
          rw [ofPieces_of_error applied] at compiled
          cases compiled
      | ok next =>
          rw [ofPieces_of_ok applied] at compiled
          exact ⟨next, after, rfl, compiled⟩

omit [EntropySource σ] in
theorem prependWarnings_append (first second : List Warning) (compilation : Compilation σ) :
    prependWarnings first (prependWarnings second compilation) =
      prependWarnings (first ++ second) compilation := by
  simp [prependWarnings]

/-! ## Compiling realizes -/

/-- A compilation whose counts lead to slots ends with these slots, all warnings and what is
left of the source. -/
theorem ofPieces_of_realizes {limits : Limits}
    (reservable : limits.repeatLimit ≤ limits.capacity) {offset : Nat}
    {constructs : List Construct} {template : Template} {source : σ} {result : List Slot}
    (realizes : Realizes limits offset constructs template.toList
      (drawnCounts limits constructs source).1 result) :
    ofPieces limits none (place offset constructs) template source =
      ⟨.ok ⟨result.toArray⟩, allWarnings (place offset constructs),
        (drawnCounts limits constructs source).2⟩ := by
  induction constructs generalizing offset template source with
  | nil =>
      cases realizes
      rfl
  | cons construct rest ih =>
      cases construct with
      | atom part =>
          cases realizes with
          | atom onward =>
              rw [← Template.toList_push] at onward
              rw [place, ofPieces_atom]
              exact congrArg (prependWarnings _) (ih onward)
      | quantifier part =>
          simp only [drawnCounts] at realizes
          generalize slotsEq : template.toList = slots at realizes
          cases realizes with
          | @quantifier _ _ _ before _ slot _ _ allowed least greatest onward =>
              have chosen := repetitions_of_allowed reservable allowed offset source
              have applied : applyPiece limits ⟨offset, .quantifier part⟩ template source = _ :=
                repeatLast_of_last (Template.last?_eq_some_iff.mpr ⟨before, slotsEq⟩) limits
                  offset part.bounds source
              rw [chosen] at applied
              rw [← Template.toList_replaceLast_of_eq slotsEq] at onward
              rw [place, ofPieces_of_ok applied]
              exact congrArg (prependWarnings _) (ih onward)

/-- A template is compiled only if the counts that the source gives lead to its slots. -/
theorem realizes_of_ofPieces {limits : Limits} {offset : Nat} {constructs : List Construct}
    {template result : Template} {source : σ}
    (compiled : (ofPieces limits none (place offset constructs) template source).outcome =
      .ok result) :
    Realizes limits offset constructs template.toList (drawnCounts limits constructs source).1
        result.toList ∧
      ofPieces limits none (place offset constructs) template source =
        ⟨.ok result, allWarnings (place offset constructs),
          (drawnCounts limits constructs source).2⟩ := by
  induction constructs generalizing offset template source with
  | nil =>
      cases compiled
      exact ⟨.nil offset result.toList, rfl⟩
  | cons construct rest ih =>
      cases construct with
      | atom part =>
          rw [place, ofPieces_atom] at compiled ⊢
          obtain ⟨onward, onwardEq⟩ := ih compiled
          rw [Template.toList_push] at onward
          exact ⟨.atom onward, congrArg (prependWarnings _) onwardEq⟩
      | quantifier part =>
          obtain ⟨next, after, applied, behind⟩ := exists_of_ofPieces_cons_eq_ok compiled
          obtain ⟨onward, onwardEq⟩ := ih behind
          obtain ⟨before, slot, count, slotsEq, found, nextEq⟩ :=
            exists_of_repeatLast_eq_ok applied
          obtain ⟨allowed, chosen, _⟩ := repetitions_eq_ok_iff.mp found
          have least := lower_le_chooseCount part.bounds.lower
            (upperBound limits part.bounds) source
          have greatest := chooseCount_le_upper allowed.1 source
          rw [chosen] at least greatest
          rw [nextEq] at onward
          rw [place, ofPieces_of_ok applied]
          simp only [drawnCounts, chosen, slotsEq]
          exact ⟨.quantifier allowed least greatest onward,
            congrArg (prependWarnings _) onwardEq⟩

/-- Where reading stopped, no template is compiled. -/
theorem halt_eq_none_of_ofPieces {limits : Limits} {halt : Option Halt} {pieces : List Piece}
    {template result : Template} {source : σ}
    (compiled : (ofPieces limits halt pieces template source).outcome = .ok result) :
    halt = none := by
  induction pieces generalizing template source with
  | nil =>
      cases halt with
      | none => rfl
      | some halt => cases compiled
  | cons piece rest ih =>
      obtain ⟨next, after, _, behind⟩ := exists_of_ofPieces_cons_eq_ok compiled
      exact ih behind

end Compilation

variable {σ : Type} [EntropySource σ]

/-- What a row of constructs leads to is reached through what its first part leads to. -/
theorem Realizes.of_append {limits : Limits} {start : Nat} {earlier later : List Construct}
    {slots result : List Slot} {source : σ}
    (realizes : Realizes limits start (earlier ++ later) slots
      (drawnCounts limits (earlier ++ later) source).1 result) :
    ∃ middle counts, Realizes limits start earlier slots (drawnCounts limits earlier source).1
        middle ∧
      Realizes limits (start + (textOf earlier).length) later middle counts result := by
  induction earlier generalizing start slots source with
  | nil => exact ⟨slots, _, .nil start slots, realizes⟩
  | cons construct rest ih =>
      rw [textOf_cons, List.length_append, ← Nat.add_assoc]
      cases construct with
      | atom part =>
          cases realizes with
          | atom onward =>
              obtain ⟨middle, counts, first, second⟩ := ih onward
              exact ⟨middle, counts, .atom first, second⟩
      | quantifier part =>
          cases realizes with
          | quantifier allowed least greatest onward =>
              obtain ⟨middle, counts, first, second⟩ := ih onward
              exact ⟨middle, counts, .quantifier allowed least greatest first, second⟩

end PatternDraw
