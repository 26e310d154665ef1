import Mathlib.Data.Char
import PatternDraw.Proofs.Letters.Bindings

/-!
# Tables in order

Binding a letter keeps the bindings in ascending order of their letters, every letter bound
once.  It changes what is found for this letter and for no other one.  A table is therefore
determined by what is found in it, however it came about.
-/

namespace PatternDraw.LetterTable

/-- The letters ascend strictly. -/
def IsAscending (bindings : List (Char × Alphabet)) : Prop :=
  bindings.Pairwise fun first second => first.1 < second.1

/-- What is kept of an alphabet to which a letter is bound: nothing if it is empty. -/
def kept? (alphabet : Alphabet) : Option Alphabet :=
  if alphabet.isEmpty then none else some alphabet

/-! ## Bindings in ascending order -/

theorem IsAscending.insert {bindings : List (Char × Alphabet)} (ascending : IsAscending bindings)
    (letter : Char) (alphabet : Alphabet) :
    IsAscending (LetterTable.insert letter alphabet bindings) := by
  induction bindings with
  | nil => exact List.pairwise_singleton _ _
  | cons binding rest ih =>
      rcases binding with ⟨bound, present⟩
      obtain ⟨behind, restAscending⟩ := List.pairwise_cons.mp ascending
      rw [LetterTable.insert]
      split
      · rename_i before
        refine List.pairwise_cons.mpr ⟨?_, ascending⟩
        intro other member
        rcases List.mem_cons.mp member with rfl | further
        · exact before
        · exact lt_trans before (behind other further)
      · rename_i notBefore
        split
        · rename_i same
          subst same
          exact List.pairwise_cons.mpr ⟨behind, restAscending⟩
        · rename_i different
          refine List.pairwise_cons.mpr ⟨?_, ih restAscending⟩
          intro other member
          rcases eq_or_mem_of_mem_insert member with rfl | further
          · exact lt_of_le_of_ne (not_lt.mp notBefore) different
          · exact behind other further

theorem erase_sublist (letter : Char) (bindings : List (Char × Alphabet)) :
    List.Sublist (LetterTable.erase letter bindings) bindings := by
  induction bindings with
  | nil => exact List.Sublist.refl []
  | cons binding rest ih =>
      rw [LetterTable.erase]
      split
      · exact List.sublist_cons_self binding rest
      · exact ih.cons_cons binding

theorem IsAscending.nodup {bindings : List (Char × Alphabet)}
    (ascending : IsAscending bindings) : bindings.Nodup := by
  refine List.Pairwise.imp ?_ ascending
  rintro binding _ before rfl
  exact lt_irrefl binding.1 before

/-- In ascending order a letter is bound by one binding only. -/
theorem IsAscending.find?_eq_some_iff {bindings : List (Char × Alphabet)}
    (ascending : IsAscending bindings) {letter : Char} {alphabet : Alphabet} :
    find? letter bindings = some alphabet ↔ (letter, alphabet) ∈ bindings := by
  constructor
  · exact mem_of_find?_eq_some
  · intro member
    induction bindings with
    | nil => exact absurd member List.not_mem_nil
    | cons binding rest ih =>
        obtain ⟨behind, restAscending⟩ := List.pairwise_cons.mp ascending
        rw [find?]
        rcases List.mem_cons.mp member with rfl | further
        · rw [if_pos rfl]
        · rw [if_neg (ne_of_lt (behind _ further))]
          exact ih restAscending further

/-! ## What is found after a change -/

theorem find?_insert (letter : Char) (alphabet : Alphabet) (bindings : List (Char × Alphabet))
    (other : Char) :
    find? other (LetterTable.insert letter alphabet bindings) =
      if other = letter then some alphabet else find? other bindings := by
  induction bindings with
  | nil => simp [LetterTable.insert, find?, eq_comm]
  | cons binding rest ih =>
      rcases binding with ⟨bound, present⟩
      rw [LetterTable.insert]
      split
      · simp [find?, eq_comm]
      · split
        · rename_i same
          subst same
          by_cases found : bound = other
          · simp [find?, found]
          · simp [find?, found, Ne.symm found]
        · rename_i different
          rw [find?, find?, ih]
          by_cases found : bound = other
          · subst found
            simp [different]
          · simp [found]

theorem IsAscending.find?_erase {bindings : List (Char × Alphabet)}
    (ascending : IsAscending bindings) (letter other : Char) :
    find? other (LetterTable.erase letter bindings) =
      if other = letter then none else find? other bindings := by
  induction bindings with
  | nil => simp [LetterTable.erase, find?]
  | cons binding rest ih =>
      rcases binding with ⟨bound, present⟩
      obtain ⟨behind, restAscending⟩ := List.pairwise_cons.mp ascending
      rw [LetterTable.erase]
      split
      · rename_i same
        subst same
        by_cases found : other = bound
        · subst found
          rw [if_pos rfl, Option.eq_none_iff_forall_ne_some]
          intro alphabet present
          exact lt_irrefl other (behind _ (mem_of_find?_eq_some present))
        · simp [find?, found, Ne.symm found]
      · rename_i different
        rw [find?, find?, ih restAscending]
        by_cases found : bound = other
        · subst found
          simp [different]
        · simp [found]

/-! ## Tables -/

/-- Letters are bound in ascending order in every table that comes about by binding letters. -/
theorem IsAscending.bind {table : LetterTable} (ascending : IsAscending table.bindings)
    (letter : Char) (alphabet : Alphabet) :
    IsAscending (table.bind letter alphabet).bindings := by
  rw [LetterTable.bind]
  split
  · exact List.Pairwise.sublist (erase_sublist letter table.bindings) ascending
  · exact ascending.insert letter alphabet

theorem Reached.isAscending {table : LetterTable} (reached : table.Reached) :
    IsAscending table.bindings := by
  induction reached with
  | empty => exact List.Pairwise.nil
  | standard =>
      rw [bindings_standard]
      simp [IsAscending]
  | set _ letter alphabet ih => exact ih.bind letter alphabet

/-- Binding a letter changes what is found for this letter only. -/
theorem Reached.get?_bind {table : LetterTable} (reached : table.Reached) (letter : Char)
    (alphabet : Alphabet) (other : Char) :
    (table.bind letter alphabet).get? other =
      if other = letter then kept? alphabet else table.get? other := by
  rw [LetterTable.bind, kept?]
  split
  · exact reached.isAscending.find?_erase letter other
  · exact find?_insert letter alphabet table.bindings other

theorem mem_letters_iff {table : LetterTable} {letter : Char} :
    letter ∈ table.letters ↔ ∃ alphabet, table.get? letter = some alphabet := by
  rw [letters, get?]
  induction table.bindings with
  | nil => simp [find?]
  | cons binding rest ih =>
      rcases binding with ⟨bound, present⟩
      rw [find?]
      by_cases found : bound = letter
      · simp [found]
      · simp [found, Ne.symm found, ih]

/-- Tables in which the same is found are equal. -/
theorem Reached.eq_of_get?_eq {first second : LetterTable} (firstReached : first.Reached)
    (secondReached : second.Reached)
    (same : ∀ letter, first.get? letter = second.get? letter) : first = second := by
  have firstAscending := firstReached.isAscending
  have secondAscending := secondReached.isAscending
  have perm : first.bindings.Perm second.bindings := by
    rw [List.perm_ext_iff_of_nodup firstAscending.nodup secondAscending.nodup]
    rintro ⟨letter, alphabet⟩
    rw [← firstAscending.find?_eq_some_iff, ← secondAscending.find?_eq_some_iff]
    exact Eq.congr_left (same letter)
  have bindings : first.bindings = second.bindings := by
    refine List.Perm.eq_of_pairwise ?_ firstAscending secondAscending perm
    intro _ _ _ _ before behind
    exact absurd before (lt_asymm behind)
  cases first
  cases second
  exact congrArg LetterTable.mk bindings

end PatternDraw.LetterTable
