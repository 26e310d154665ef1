import Mathlib.Algebra.Group.Nat.Defs
import Mathlib.Data.List.Forall2
import PatternDraw.Template
import PatternDraw.Proofs.Entropy.Supply

/-!
# Texts that are drawn

Slots with candidates give one of their candidates each, whatever the source.  Conversely any
choice of candidates can be drawn by suitable words, as long as the alphabets have no more
candidates than there are words.
-/

namespace PatternDraw

open CyclicWords

variable {σ : Type} [EntropySource σ]

/-! ## One character -/

namespace Alphabet

/-- From an alphabet with candidates one of them is chosen. -/
theorem exists_extend {alphabet : Alphabet} (inhabited : 0 < alphabet.size) (text : String)
    (source : σ) : ∃ ch ∈ alphabet, (alphabet.extend text source).1 = text.push ch := by
  have within := Uniform.index_lt inhabited source
  have found : (alphabet.choose source).1 =
      some (alphabet.members[(Uniform.index alphabet.size source).1]) :=
    Array.getElem?_eq_getElem within
  refine ⟨_, Array.getElem_mem within, ?_⟩
  unfold extend
  generalize alphabet.choose source = chosen at found
  rcases chosen with ⟨candidate, rest⟩
  simp only at found
  subst found
  rfl

/-- Every candidate of an alphabet in memory can be chosen. -/
theorem reachable_extend {alphabet : Alphabet} (addressable : alphabet.size ≤ 2 ^ 64) {ch : Char}
    (member : ch ∈ alphabet) (text : String) :
    Reachable (alphabet.extend text) (text.push ch) := by
  obtain ⟨index, indexBound, rfl⟩ := Array.mem_iff_getElem.mp member
  obtain ⟨words, draws⟩ := Uniform.reachable_index addressable indexBound
  refine ⟨words, ?_⟩
  intro source rest supplies
  simp [extend, choose, draws source rest supplies, get?, indexBound]

/-- What is drawn does not depend on the text before it. -/
theorem extend_append (alphabet : Alphabet) (drawn text : String) (source : σ) :
    alphabet.extend (drawn ++ text) source =
      (drawn ++ (alphabet.extend text source).1, (alphabet.extend text source).2) := by
  unfold extend
  rcases alphabet.choose source with ⟨_ | ch, rest⟩
  · rfl
  · have pushed : (drawn ++ text).push ch = drawn ++ text.push ch := by
      rw [String.push_eq_append, String.push_eq_append, String.append_assoc]
    exact congrArg (·, rest) pushed

end Alphabet

/-! ## One text -/

namespace Template

/-- Draw a character for each slot, after the text drawn so far. -/
def drawSlots (slots : List Slot) (text : String) (source : σ) : String × σ :=
  slots.foldl (fun drawn slot => slot.alphabet.extend drawn.1 drawn.2) (text, source)

theorem drawSlots_cons (slot : Slot) (slots : List Slot) (text : String) (source : σ) :
    drawSlots (slot :: slots) text source =
      drawSlots slots (slot.alphabet.extend text source).1
        (slot.alphabet.extend text source).2 :=
  rfl

theorem drawSlots_append (first second : List Slot) (text : String) (source : σ) :
    drawSlots (first ++ second) text source =
      drawSlots second (drawSlots first text source).1 (drawSlots first text source).2 :=
  List.foldl_append

/-- The characters of slots are added to the text drawn so far, whatever it is. -/
theorem drawSlots_eq_append (slots : List Slot) (drawn : String) (source : σ) :
    drawSlots slots drawn source =
      (drawn ++ (drawSlots slots "" source).1, (drawSlots slots "" source).2) := by
  induction slots generalizing drawn source with
  | nil => exact congrArg (·, source) String.append_empty.symm
  | cons slot rest ih =>
      have here := slot.alphabet.extend_append drawn "" source
      rw [String.append_empty] at here
      rw [drawSlots_cons, here, ih, drawSlots_cons, ih (slot.alphabet.extend "" source).1,
        String.append_assoc]

theorem draw_eq_drawSlots (template : Template) (source : σ) :
    template.draw source = drawSlots template.toList "" source := by
  rw [draw, drawSlots, toList, Array.foldl_toList]

/-- Slots with candidates give one of their candidates each. -/
theorem exists_drawSlots {slots : List Slot} (inhabited : ∀ slot ∈ slots, 0 < slot.alphabet.size)
    (text : String) (source : σ) :
    ∃ drawn, (drawSlots slots text source).1.toList = text.toList ++ drawn ∧
      List.Forall₂ (fun ch slot => ch ∈ slot.alphabet) drawn slots := by
  induction slots generalizing text source with
  | nil => exact ⟨[], by simp [drawSlots], .nil⟩
  | cons slot rest ih =>
      obtain ⟨ch, member, extended⟩ :=
        Alphabet.exists_extend (inhabited slot List.mem_cons_self) text source
      obtain ⟨drawn, drawnEq, members⟩ :=
        ih (fun slot member => inhabited slot (List.mem_cons_of_mem _ member))
          (slot.alphabet.extend text source).1 (slot.alphabet.extend text source).2
      refine ⟨ch :: drawn, ?_, .cons member members⟩
      rw [extended] at drawnEq
      rw [drawSlots_cons, extended, drawnEq]
      simp

/-- A text has one candidate of each slot, in order. -/
theorem forall₂_mem_draw {template : Template}
    (inhabited : ∀ slot ∈ template.toList, 0 < slot.alphabet.size) (source : σ) :
    List.Forall₂ (fun ch slot => ch ∈ slot.alphabet) (template.draw source).1.toList
      template.toList := by
  obtain ⟨drawn, drawnEq, members⟩ := exists_drawSlots inhabited "" source
  rw [draw_eq_drawSlots, drawnEq]
  exact members

theorem toList_foldl_push (drawn : List Char) (text : String) :
    (drawn.foldl String.push text).toList = text.toList ++ drawn := by
  induction drawn generalizing text with
  | nil => simp
  | cons ch rest ih => simp [ih]

/-- Candidates of all slots can be drawn together. -/
theorem reachable_drawSlots {slots : List Slot} {drawn : List Char}
    (members : List.Forall₂ (fun ch slot => ch ∈ slot.alphabet) drawn slots)
    (addressable : ∀ slot ∈ slots, slot.alphabet.size ≤ 2 ^ 64) (text : String) :
    Reachable (drawSlots slots text) (drawn.foldl String.push text) := by
  induction members generalizing text with
  | nil => exact reachable_pure text
  | @cons ch slot drawn slots member _ ih =>
      have here := Alphabet.reachable_extend (addressable slot List.mem_cons_self) member text
      exact here.andThen (drawSlots slots)
        (ih (fun slot member => addressable slot (List.mem_cons_of_mem _ member)) (text.push ch))

end Template

end PatternDraw
