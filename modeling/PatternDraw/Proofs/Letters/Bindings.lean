import PatternDraw.LetterTable

/-!
# Bindings have candidates

A table of letters starts empty or with the usual letters and is changed by binding letters
only.  Binding a letter to an empty alphabet removes its binding, so whatever alphabets are
bound in whatever order, a letter that is bound at the end has candidates.
-/

namespace PatternDraw.LetterTable

/-- Every letter of the table is bound to an alphabet with candidates. -/
def IsInhabited (table : LetterTable) : Prop :=
  ∀ binding ∈ table.bindings, 0 < binding.2.size

/-- The tables that come from the empty or the usual one by binding letters. -/
inductive Reached : LetterTable → Prop
  | empty : Reached .empty
  | standard : Reached .standard
  | set {table : LetterTable} (reached : Reached table) (letter : Char) (alphabet : Alphabet) :
      Reached (table.set letter alphabet).2

/-! ## Ordered bindings -/

theorem mem_of_find?_eq_some {letter : Char} {alphabet : Alphabet}
    {bindings : List (Char × Alphabet)} (found : find? letter bindings = some alphabet) :
    (letter, alphabet) ∈ bindings := by
  induction bindings with
  | nil => cases found
  | cons binding rest ih =>
      rw [find?] at found
      split at found
      · rename_i same
        cases found
        subst same
        exact List.mem_cons_self
      · exact List.mem_cons_of_mem _ (ih found)

theorem eq_or_mem_of_mem_insert {letter : Char} {alphabet : Alphabet} {binding : Char × Alphabet}
    {bindings : List (Char × Alphabet)} (member : binding ∈ insert letter alphabet bindings) :
    binding = (letter, alphabet) ∨ binding ∈ bindings := by
  induction bindings with
  | nil => exact .inl (List.mem_singleton.mp member)
  | cons present rest ih =>
      rw [insert] at member
      split at member
      · exact List.mem_cons.mp member
      · split at member
        · exact (List.mem_cons.mp member).imp_right (List.mem_cons_of_mem _)
        · rcases List.mem_cons.mp member with rfl | behind
          · exact .inr List.mem_cons_self
          · exact (ih behind).imp_right (List.mem_cons_of_mem _)

theorem mem_of_mem_erase {letter : Char} {binding : Char × Alphabet}
    {bindings : List (Char × Alphabet)} (member : binding ∈ erase letter bindings) :
    binding ∈ bindings := by
  induction bindings with
  | nil => exact member
  | cons present rest ih =>
      rw [erase] at member
      split at member
      · exact List.mem_cons_of_mem _ member
      · rcases List.mem_cons.mp member with rfl | behind
        · exact List.mem_cons_self
        · exact List.mem_cons_of_mem _ (ih behind)

/-! ## Tables -/

theorem bindings_bind {alphabet : Alphabet} (inhabited : 0 < alphabet.size) (table : LetterTable)
    (letter : Char) :
    (table.bind letter alphabet).bindings = insert letter alphabet table.bindings := by
  rw [LetterTable.bind, if_neg (Alphabet.size_pos_iff.mp inhabited)]

/-- The usual letters are bound as they are written down, in ascending order. -/
theorem bindings_standard :
    standard.bindings =
      [('!', .punctuation), ('.', .visible), ('C', .upper), ('b', .bytes), ('c', .lower),
        ('n', .digit), ('s', .salt)] := by
  have punctuation : 0 < Alphabet.punctuation.size := by decide +kernel
  have visible : 0 < Alphabet.visible.size := by decide +kernel
  have upper : 0 < Alphabet.upper.size := by decide +kernel
  have bytes : 0 < Alphabet.bytes.size :=
    Alphabet.size_pos_of_mem (Alphabet.mem_interval_iff.mpr (by decide : 0 ≤ 'b'.toNat ∧ _))
  have lower : 0 < Alphabet.lower.size := by decide +kernel
  have digit : 0 < Alphabet.digit.size := by decide +kernel
  have salt : 0 < Alphabet.salt.size := by decide +kernel
  rw [standard, List.foldl_cons, List.foldl_cons, List.foldl_cons, List.foldl_cons,
    List.foldl_cons, List.foldl_cons, List.foldl_cons, List.foldl_nil]
  rw [bindings_bind bytes, bindings_bind salt, bindings_bind visible, bindings_bind punctuation,
    bindings_bind digit, bindings_bind lower, bindings_bind upper]
  rfl

theorem isInhabited_empty : IsInhabited .empty := by
  intro binding member
  exact absurd member List.not_mem_nil

/-- Binding a letter keeps all letters bound to alphabets with candidates. -/
theorem IsInhabited.bind {table : LetterTable} (inhabited : table.IsInhabited) (letter : Char)
    (alphabet : Alphabet) : (table.bind letter alphabet).IsInhabited := by
  intro binding member
  by_cases empty : alphabet.isEmpty = true
  · rw [LetterTable.bind, if_pos empty] at member
    exact inhabited binding (mem_of_mem_erase member)
  · have filled : 0 < alphabet.size := Alphabet.size_pos_iff.mpr empty
    rw [bindings_bind filled] at member
    rcases eq_or_mem_of_mem_insert member with rfl | present
    · exact filled
    · exact inhabited binding present

theorem IsInhabited.foldl_bind {table : LetterTable} (inhabited : table.IsInhabited)
    (bindings : List (Char × Alphabet)) :
    (bindings.foldl (fun table (letter, alphabet) => table.bind letter alphabet)
      table).IsInhabited := by
  induction bindings generalizing table with
  | nil => exact inhabited
  | cons binding rest ih => exact ih (inhabited.bind binding.1 binding.2)

theorem isInhabited_standard : IsInhabited .standard :=
  isInhabited_empty.foldl_bind _

theorem Reached.isInhabited {table : LetterTable} (reached : table.Reached) :
    table.IsInhabited := by
  induction reached with
  | empty => exact isInhabited_empty
  | standard => exact isInhabited_standard
  | set _ letter alphabet ih => exact ih.bind letter alphabet

theorem IsInhabited.size_pos_of_get? {table : LetterTable} (inhabited : table.IsInhabited)
    {letter : Char} {alphabet : Alphabet} (bound : table.get? letter = some alphabet) :
    0 < alphabet.size :=
  inhabited _ (mem_of_find?_eq_some bound)

end PatternDraw.LetterTable
