import Mathlib.Algebra.GroupWithZero.Nat
import PatternDraw.Proofs.Reading.Grammar

/-!
# Where constructs and their warnings stand

Constructs that follow each other take up the text from the first of them to the end of the
last.  A warning points into the text of the construct that it is about, so no warning lies
outside of the text that was read.
-/

namespace PatternDraw

/-! ## Brackets -/

namespace BracketItem

/-- The entries of a text take up all of its characters. -/
theorem sum_width_read (text : List Char) : ((read text).map width).sum = text.length := by
  fun_induction read text with
  | case1 last rest ih =>
      simp only [List.map_cons, List.sum_cons, List.length_cons, width, ih]
      omega
  | case2 ch rest _ ih =>
      simp only [List.map_cons, List.sum_cons, List.length_cons, width, ih]
      omega
  | case3 => rfl

theorem warnings_within {start : Char} {offset : Nat} {item : BracketItem} {warning : Warning}
    (member : warning ∈ item.warnings start offset) :
    offset ≤ warning.offset ∧ warning.offset < offset + item.width := by
  cases item with
  | single ch =>
      simp only [warnings] at member
      split at member
      · cases member
      · rw [List.mem_singleton.mp member]
        exact ⟨Nat.le_refl offset, Nat.lt_succ_self offset⟩
  | rangeTo last =>
      simp only [warnings] at member
      split at member
      · cases member
      · rw [List.mem_singleton.mp member]
        exact ⟨Nat.le_succ offset, Nat.lt_succ_self (offset + 1)⟩

theorem allWarnings_within {start : Char} {offset : Nat} {items : List BracketItem}
    {warning : Warning} (member : warning ∈ allWarnings start offset items) :
    offset ≤ warning.offset ∧ warning.offset < offset + (items.map width).sum := by
  induction items generalizing start offset with
  | nil => cases member
  | cons item rest ih =>
      rw [List.map_cons, List.sum_cons]
      rcases List.mem_append.mp member with here | behind
      · have within := warnings_within here
        omega
      · have within := ih behind
        omega

end BracketItem

theorem Bracket.warnings_within {offset : Nat} {body : List Char} {warning : Warning}
    (member : warning ∈ warnings offset body) :
    offset ≤ warning.offset ∧ warning.offset < offset + body.length := by
  cases body with
  | nil => cases member
  | cons ch rest =>
      rw [List.length_cons]
      rcases List.mem_append.mp member with here | behind
      · have within := BracketItem.warnings_within here
        rw [BracketItem.width] at within
        omega
      · have within := BracketItem.allWarnings_within behind
        rw [BracketItem.sum_width_read] at within
        omega

/-! ## Constructs -/

theorem Atom.warnings_within {part : Atom} {offset : Nat} {warning : Warning}
    (member : warning ∈ part.warnings offset) :
    offset ≤ warning.offset ∧ warning.offset < offset + part.text.length := by
  cases part with
  | literal ch =>
      simp only [warnings] at member
      split at member
      · rw [List.mem_singleton.mp member]
        exact ⟨Nat.le_refl offset, Nat.lt_succ_self offset⟩
      · cases member
  | dot => cases member
  | hexEscape high low => cases member
  | escape ch =>
      have atStart : warning.offset = offset := by
        simp only [warnings] at member
        split at member
        · rw [List.mem_singleton.mp member]
        · split at member
          · cases member
          · rw [List.mem_singleton.mp member]
      rw [atStart]
      exact ⟨Nat.le_refl offset, Nat.lt_add_of_pos_right Nat.two_pos⟩
  | bracket body =>
      have within := Bracket.warnings_within member
      simp only [text, List.length_append, List.length_cons]
      omega

/-- A warning points into the text of its construct. -/
theorem Piece.warnings_within {piece : Piece} {warning : Warning}
    (member : warning ∈ piece.warnings) :
    piece.offset ≤ warning.offset ∧
      warning.offset < piece.offset + piece.construct.text.length := by
  rcases piece with ⟨offset, part | part⟩
  · exact Atom.warnings_within member
  · cases member

/-- A placed construct stands within the text that all of them take up. -/
theorem within_of_mem_place {start : Nat} {constructs : List Construct} {piece : Piece}
    (member : piece ∈ place start constructs) :
    start ≤ piece.offset ∧
      piece.offset + piece.construct.text.length ≤ start + (textOf constructs).length := by
  induction constructs generalizing start with
  | nil => cases member
  | cons construct rest ih =>
      rw [textOf_cons, List.length_append]
      rcases List.mem_cons.mp member with rfl | behind
      · dsimp only
        omega
      · have within := ih behind
        omega

end PatternDraw
