import PatternDraw.Entropy.Cyclic
import PatternDraw.Proofs.Compiling.AtomRows
import PatternDraw.Proofs.Compiling.Denotation
import PatternDraw.Proofs.Reading.TopLevel

/-!
# Where slots come from

A slot keeps the offset of the atom that lists its candidates.  Quantifiers copy slots and drop
them, and they may reach back over a slot that has been dropped, but they keep the slots in the
order of their atoms and the copies of one slot together.  So the offset of a slot leads to the
one construct of the pattern that starts there, and this construct, compiled on its own, gives
the alphabet of the slot.
-/

namespace PatternDraw

open Compilation

/-! ## The order of slots -/

/-- The slots stand in the order of their offsets, and those with the same offset are equal. -/
def InPatternOrder (slots : List Slot) : Prop :=
  slots.Pairwise fun first second => first.offset < second.offset ∨ first = second

namespace InPatternOrder

/-- A slot can be added whose offset is behind those of all others. -/
theorem push {slots : List Slot} (inOrder : InPatternOrder slots) {slot : Slot}
    (behind : ∀ earlier ∈ slots, earlier.offset < slot.offset) :
    InPatternOrder (slots ++ [slot]) := by
  refine List.pairwise_append.mpr ⟨inOrder, List.pairwise_singleton _ _, ?_⟩
  intro earlier member last lastMember
  rw [List.mem_singleton.mp lastMember]
  exact .inl (behind earlier member)

/-- The last slot can be replaced by copies of it. -/
theorem replaceLast {before : List Slot} {slot : Slot}
    (inOrder : InPatternOrder (before ++ [slot])) (count : Nat) :
    InPatternOrder (before ++ List.replicate count slot) := by
  obtain ⟨beforeInOrder, _, across⟩ := List.pairwise_append.mp inOrder
  refine List.pairwise_append.mpr ⟨beforeInOrder, ?_, ?_⟩
  · exact List.pairwise_replicate.mpr (.inr (.inr rfl))
  · intro earlier member copy copyMember
    rw [List.eq_of_mem_replicate copyMember]
    exact across earlier member slot List.mem_cons_self

theorem pairwise_offset {slots : List Slot} (inOrder : InPatternOrder slots) :
    (slots.map Slot.offset).Pairwise (· ≤ ·) := by
  refine List.pairwise_map.mpr (List.Pairwise.imp ?_ inOrder)
  rintro first second (before | rfl)
  · exact Nat.le_of_lt before
  · exact Nat.le_refl _

theorem eq_of_offset_eq {slots : List Slot} (inOrder : InPatternOrder slots)
    {first second : Slot} (firstMember : first ∈ slots) (secondMember : second ∈ slots)
    (same : first.offset = second.offset) : first = second := by
  have forward : slots.Pairwise fun first second =>
      first.offset = second.offset → first = second := by
    refine List.Pairwise.imp ?_ inOrder
    rintro first second (before | equal) same
    · exact absurd same (Nat.ne_of_lt before)
    · exact equal
  have backward := forward.imp fun {first second} equal (same : second.offset = first.offset) =>
    (equal same.symm).symm
  exact forward.forall_of_forall_of_flip (fun _ _ _ => rfl) backward firstMember secondMember same

/-- Between two slots with the same offset there are only copies of them. -/
theorem eq_of_mem_between {before between behind : List Slot} {first last : Slot}
    (inOrder : InPatternOrder (before ++ first :: between ++ last :: behind))
    (same : last.offset = first.offset) : ∀ slot ∈ between, slot = first := by
  intro slot member
  obtain ⟨earlier, _, across⟩ := List.pairwise_append.mp inOrder
  obtain ⟨_, fromFirst, _⟩ := List.pairwise_append.mp earlier
  have notAfterLast := across slot (by simp [member]) last List.mem_cons_self
  rcases List.rel_of_pairwise_cons fromFirst member with after | equal
  · rcases notAfterLast with further | rfl
    · omega
    · omega
  · exact equal.symm

end InPatternOrder

/-- Constructs keep slots in order that stand before them. -/
theorem Realizes.inPatternOrder {limits : Limits} {start : Nat} {constructs : List Construct}
    {slots result : List Slot} {counts : List Nat}
    (realizes : Realizes limits start constructs slots counts result)
    (inOrder : InPatternOrder slots) (before : ∀ slot ∈ slots, slot.offset < start) :
    InPatternOrder result := by
  induction realizes with
  | nil => exact inOrder
  | @atom offset part _ _ _ _ _ ih =>
      have filled := (Construct.atom part).length_text_pos
      refine ih (inOrder.push before) ?_
      intro slot member
      rcases List.mem_append.mp member with earlier | last
      · exact Nat.lt_of_lt_of_le (before slot earlier) (Nat.le_add_right _ _)
      · rw [List.mem_singleton.mp last]
        exact Nat.lt_add_of_pos_right filled
  | @quantifier offset part _ _ _ last count _ _ _ _ _ ih =>
      refine ih (inOrder.replaceLast count) ?_
      intro slot member
      refine Nat.lt_of_lt_of_le (before slot ?_) (Nat.le_add_right _ _)
      rcases List.mem_append.mp member with earlier | copy
      · exact List.mem_append_left _ earlier
      · rw [List.eq_of_mem_replicate copy]
        exact List.mem_append_right _ List.mem_cons_self

/-! ## Atoms on their own -/

/-- An atom starts with no quantifier sign, and with an opening brace only if it is a loose one. -/
theorem Atom.StandsBefore.exists_eq_cons {part : Atom} {rest : List Char}
    (stands : part.StandsBefore rest) :
    ∃ ch behind, part.text ++ rest = ch :: behind ∧ ch ∉ ['*', '+', '?'] ∧
      (ch = '\x7b' → '\x7d' ∉ behind) := by
  cases part with
  | literal ch =>
      refine ⟨ch, rest, rfl, ?_⟩
      rcases stands with plain | ⟨rfl, unclosed⟩
      · have signs : ['*', '+', '?'] ⊆ openers := by simp [openers]
        refine ⟨fun sign => plain (signs sign), ?_⟩
        rintro rfl
        exact absurd (by decide) plain
      · exact ⟨by decide, fun _ => unclosed⟩
  | dot => exact ⟨'.', _, rfl, by decide, fun brace => absurd brace (by decide)⟩
  | hexEscape high low => exact ⟨'\\', _, rfl, by decide, fun brace => absurd brace (by decide)⟩
  | escape ch => exact ⟨'\\', _, rfl, by decide, fun brace => absurd brace (by decide)⟩
  | bracket body => exact ⟨'[', _, rfl, by decide, fun brace => absurd brace (by decide)⟩

/-- An atom that stands in a pattern is a pattern of its own. -/
theorem Atom.StandsBefore.splits_text {part : Atom} {rest : List Char}
    (stands : part.StandsBefore rest) : Splits part.text [.atom part] := by
  have alone : (Construct.atom part).StandsBefore [] := by
    cases part with
    | literal ch => exact stands.imp_right fun ⟨brace, _⟩ => ⟨brace, List.not_mem_nil⟩
    | _ => exact stands
  have splits := Splits.cons alone .nil
  rwa [List.append_nil] at splits

/-- An atom that stands in a pattern compiles on its own to one slot. -/
theorem Compilation.ofPattern_text {part : Atom} {rest : List Char}
    (stands : part.StandsBefore rest) {σ : Type} [EntropySource σ] (limits : Limits)
    (source : σ) :
    ofPattern limits (String.ofList part.text) source =
      ⟨.ok ⟨#[⟨part.alphabet, 0⟩]⟩, part.warnings 0, source⟩ := by
  have alone : Splits (String.ofList part.text).toList ([part].map Construct.atom) := by
    rw [String.toList_ofList]
    exact stands.splits_text
  have warned : allWarnings (place 0 ([part].map Construct.atom)) = part.warnings 0 :=
    List.append_nil _
  rw [ofPattern_of_splits_atoms alone, warned]
  rfl

/-! ## The atom of a slot -/

/-- The slot is that of the atom: where its offset leads, this atom stands and no other construct,
and the slot has its alphabet. -/
structure Slot.ComesFrom (pattern : List Char) (part : Atom) (slot : Slot) : Prop where
  due : IsDue pattern slot.offset
  stands : ∃ rest, pattern.drop slot.offset = part.text ++ rest ∧ part.StandsBefore rest
  unique : ∀ (construct : Construct) (rest : List Char),
    pattern.drop slot.offset = construct.text ++ rest → construct.StandsBefore rest →
    construct = .atom part
  alphabet_eq : slot.alphabet = part.alphabet

/-- The slot that an atom adds comes from it. -/
theorem Slot.comesFrom_of_mem_place {pattern : List Char} {constructs : List Construct}
    (splits : Splits pattern constructs) {part : Atom} {offset : Nat}
    (placed : ⟨offset, .atom part⟩ ∈ place 0 constructs) :
    Slot.ComesFrom pattern part ⟨part.alphabet, offset⟩ := by
  obtain ⟨due, rest, spelled, stands⟩ := splits.splitsToEnd.stands_of_mem_place placed
  refine ⟨due, ⟨rest, spelled, stands⟩, ?_, rfl⟩
  intro construct behind otherSpelled otherStands
  exact (otherStands.unique stands (otherSpelled.symm.trans spelled)).1

theorem Slot.ComesFrom.offset_lt {pattern : List Char} {part : Atom} {slot : Slot}
    (comesFrom : slot.ComesFrom pattern part) : slot.offset < pattern.length := by
  obtain ⟨rest, spelled, _⟩ := comesFrom.stands
  have lengths := congrArg List.length spelled
  have filled := (Construct.atom part).length_text_pos
  rw [List.length_drop, List.length_append] at lengths
  change 0 < part.text.length at filled
  omega

namespace Compilation

variable {σ τ : Type} [EntropySource σ] [EntropySource τ]

/-- The slots of a compiled template stand in the order of their offsets.  These lie within the
pattern, and slots with the same offset are equal, so the copies of a slot stand together.  Where
the offset of a slot leads, exactly one construct starts, an atom: its first character is no
quantifier sign, and an opening brace only if no closing one follows.  The text of this atom,
compiled alone under any limits and with any source, gives the alphabet of the slot. -/
theorem ofPattern_provenance (limits : Limits) (pattern : String) (source : σ)
    (template : Template) (compiled : (ofPattern limits pattern source).outcome = .ok template) :
    (template.toList.map Slot.offset).Pairwise (· ≤ ·) ∧
    (∀ slot ∈ template.toList, slot.offset < pattern.toList.length) ∧
    (∀ first ∈ template.toList, ∀ second ∈ template.toList,
      first.offset = second.offset → first = second) ∧
    (∀ before first between last behind,
      template.toList = before ++ first :: between ++ last :: behind →
      last.offset = first.offset → ∀ slot ∈ between, slot = first) ∧
    ∀ slot ∈ template.toList, ∃ part, slot.ComesFrom pattern.toList part ∧
      (∃ ch rest, pattern.toList.drop slot.offset = ch :: rest ∧ ch ∉ ['*', '+', '?'] ∧
        (ch = '\x7b' → '\x7d' ∉ rest)) ∧
      ∀ (others : Limits) (other : τ), ofPattern others (String.ofList part.text) other =
        ⟨.ok ⟨#[⟨slot.alphabet, 0⟩]⟩, part.warnings 0, other⟩ := by
  obtain ⟨constructs, splits, realizes, _⟩ := exists_of_ofPattern_eq_ok compiled
  have inOrder : InPatternOrder template.toList := realizes.inPatternOrder .nil (by simp)
  have origin : ∀ slot ∈ template.toList, ∃ part, slot.ComesFrom pattern.toList part := by
    refine realizes.forall_slots ?_ (by simp)
    intro offset part placed
    exact ⟨part, Slot.comesFrom_of_mem_place splits placed⟩
  refine ⟨inOrder.pairwise_offset, ?_, fun _ firstMember _ => inOrder.eq_of_offset_eq firstMember,
    ?_, ?_⟩
  · intro slot member
    obtain ⟨part, comesFrom⟩ := origin slot member
    exact comesFrom.offset_lt
  · intro before first between last behind slots
    exact (slots ▸ inOrder).eq_of_mem_between
  · intro slot member
    obtain ⟨part, comesFrom⟩ := origin slot member
    obtain ⟨rest, spelled, stands⟩ := comesFrom.stands
    refine ⟨part, comesFrom, ?_, ?_⟩
    · rw [spelled]
      exact stands.exists_eq_cons
    · intro others other
      rw [comesFrom.alphabet_eq]
      exact ofPattern_text stands others other

/-- A quantifier reaches back over a slot that has been dropped, and a bracket is repeated. -/
theorem ofPattern_provenance_of_dropped_slot :
    let words : CyclicWords := ⟨0, [], []⟩
    let pattern := "ab\x7b0\x7d\x7b2\x7d[x-z]\x7b3\x7d"
    let letter : Slot := ⟨.single 'a', 0⟩
    let listed : Slot := ⟨.ofString "xyz", 8⟩
    let slots := [letter, letter, listed, listed, listed]
    (ofPattern {} pattern words).outcome = .ok ⟨slots.toArray⟩ ∧
      (slots.map Slot.offset).Pairwise (· ≤ ·) ∧
      ∃ part, listed.ComesFrom pattern.toList part ∧
        ∀ (others : Limits) (other : CyclicWords),
          ofPattern others (String.ofList part.text) other =
            ⟨.ok ⟨#[⟨.ofString "xyz", 0⟩]⟩, part.warnings 0, other⟩ := by
  intro words pattern letter listed slots
  have compiled : (ofPattern {} pattern words).outcome = .ok ⟨slots.toArray⟩ := by
    decide +kernel
  obtain ⟨inOrder, _, _, _, origin⟩ :=
    @ofPattern_provenance CyclicWords CyclicWords _ _ {} pattern words _ compiled
  obtain ⟨part, comesFrom, _, alone⟩ := origin listed (by simp [slots, Template.toList])
  exact ⟨compiled, inOrder, part, comesFrom, alone⟩

end Compilation

end PatternDraw
