import Mathlib.Algebra.BigOperators.Group.List.Basic
import PatternDraw.Proofs.Reading.Places

/-!
# How many candidates an atom has

The alphabet of a well-formed atom is never empty, so a character can always be chosen for its
position.  It is not large either: no more candidates for each character of the text of the atom
than there are code points.  A row of equal ranges shows how many candidates a bracket can have.
-/

namespace PatternDraw

namespace Text

/-- Code points end at U+10FFFF. -/
theorem toNat_lt (ch : Char) : ch.toNat < 0x110000 := by
  rcases ch.valid with low | ⟨_, high⟩
  · exact Nat.lt_trans low (by decide)
  · exact high

theorem size_appendInterval (members : Array Char) (first last : Nat) :
    (appendInterval members first last).size =
      members.size + ((List.range' first (last + 1 - first)).filterMap scalar?).length := by
  rw [← Array.length_toList, appendInterval, toList_appendRun, List.length_append,
    Array.length_toList]

theorem size_le_size_appendInterval (members : Array Char) (first last : Nat) :
    members.size ≤ (appendInterval members first last).size := by
  rw [size_appendInterval]
  exact Nat.le_add_right _ _

theorem size_appendInterval_le (members : Array Char) (first last : Nat) :
    (appendInterval members first last).size ≤ members.size + (last + 1) := by
  rw [size_appendInterval]
  have listed := List.length_filterMap_le scalar? (List.range' first (last + 1 - first))
  rw [List.length_range'] at listed
  omega

/-- Beyond the surrogates every code point of a range has a character. -/
theorem size_appendInterval_of_lt {first last : Nat} (beyond : 0xDFFF < first)
    (within : last < 0x110000) (members : Array Char) :
    (appendInterval members first last).size = members.size + (last + 1 - first) := by
  have scalars : ∀ code ∈ List.range' first (last + 1 - first), (scalar? code).isSome := by
    intro code member
    have bounds := List.mem_range'_1.mp member
    have valid : code.isValidChar := .inr ⟨by omega, by omega⟩
    rw [scalar?, if_pos valid, Option.isSome_some]
  rw [size_appendInterval, List.filterMap_length_eq_length.mpr scalars, List.length_range']

end Text

/-! ## Brackets -/

namespace BracketItem

theorem size_le_size_append (members : Array Char) (start : Char) (item : BracketItem) :
    members.size ≤ (item.append members start).size := by
  cases item with
  | single ch => simp [append]
  | rangeTo last => exact Text.size_le_size_appendInterval _ _ _

theorem size_append_le (members : Array Char) (start : Char) (item : BracketItem) :
    (item.append members start).size ≤ members.size + 0x110000 := by
  cases item with
  | single ch => simp [append]
  | rangeTo last =>
      have listed := Text.size_appendInterval_le members (start.toNat + 1) last.toNat
      have lastBound := Text.toNat_lt last
      simp only [append]
      omega

theorem size_le_size_appendAll (members : Array Char) (start : Char) (items : List BracketItem) :
    members.size ≤ (appendAll members start items).size := by
  induction items generalizing members start with
  | nil => exact Nat.le_refl _
  | cons item rest ih =>
      exact Nat.le_trans (size_le_size_append members start item) (ih _ _)

theorem size_appendAll_le (members : Array Char) (start : Char) (items : List BracketItem) :
    (appendAll members start items).size ≤ members.size + items.length * 0x110000 := by
  induction items generalizing members start with
  | nil => simp [appendAll]
  | cons item rest ih =>
      have here := size_append_le members start item
      have onward := ih (item.append members start) (item.lastAfter start)
      rw [List.length_cons, Nat.succ_mul]
      simp only [appendAll]
      omega

/-- Every entry is written in at least one character. -/
theorem length_read_le (text : List Char) : (read text).length ≤ text.length := by
  have counted := List.length_le_sum_of_one_le ((read text).map width) ?_
  · rwa [List.length_map, sum_width_read] at counted
  · intro count member
    obtain ⟨item, _, rfl⟩ := List.mem_map.mp member
    cases item <;> simp [width]

end BracketItem

/-! ### Rows of equal ranges -/

namespace BracketItem

/-- A character other than a dash is listed itself. -/
theorem read_cons_of_ne {ch : Char} (plain : ch ≠ '-') (rest : List Char) :
    read (ch :: rest) = single ch :: read rest := by
  cases rest <;> simp [read, plain]

variable {first last : Char}

/-- A character and the range that goes on from it, in front of any text. -/
theorem appendAll_read_range (plain : first ≠ '-') (ordered : first ≤ last) (members : Array Char)
    (start : Char) (rest : List Char) :
    appendAll members start (read (first :: '-' :: last :: rest)) =
      appendAll (Text.appendInterval (members.push first) (first.toNat + 1) last.toNat) last
        (read rest) := by
  rw [read_cons_of_ne plain, read, appendAll, appendAll, append, append, lastAfter, lastAfter,
    if_pos ordered]

/-- Equal ranges beyond the surrogates list their characters each time. -/
theorem size_appendAll_ranges (plain : first ≠ '-') (ordered : first ≤ last)
    (beyond : 0xDFFF < first.toNat) (members : Array Char) (start : Char) (count : Nat) :
    (appendAll members start (read (List.replicate count [first, '-', last]).flatten)).size =
      members.size + count * (last.toNat + 1 - first.toNat) := by
  induction count generalizing members start with
  | zero => simp [read, appendAll]
  | succ count ih =>
      have row : (List.replicate (count + 1) [first, '-', last]).flatten =
          first :: '-' :: last :: (List.replicate count [first, '-', last]).flatten := rfl
      have listed := Text.size_appendInterval_of_lt (Nat.lt_succ_of_lt beyond) (Text.toNat_lt last)
        (members.push first)
      have upTo : first.toNat ≤ last.toNat := ordered
      rw [row, appendAll_read_range plain ordered, ih, listed, Array.size_push, Nat.succ_mul]
      omega

end BracketItem

namespace Bracket

/-- A text whose first character is no dash is listed as entries throughout. -/
theorem members_alphabet {ch : Char} (plain : ch ≠ '-') (rest : List Char) :
    (alphabet (ch :: rest)).members =
      BracketItem.appendAll #[] ch (BracketItem.read (ch :: rest)) := by
  rw [BracketItem.read_cons_of_ne plain]
  rfl

/-- A row of equal ranges beyond the surrogates lists their characters each time. -/
theorem size_alphabet_ranges {first last : Char} (plain : first ≠ '-') (ordered : first ≤ last)
    (beyond : 0xDFFF < first.toNat) (count : Nat) :
    (alphabet (List.replicate count [first, '-', last]).flatten).size =
      count * (last.toNat + 1 - first.toNat) := by
  cases count with
  | zero => simp [alphabet, Alphabet.size]
  | succ count =>
      have listed := BracketItem.size_appendAll_ranges plain ordered beyond #[] first (count + 1)
      rw [Array.size_empty, Nat.zero_add] at listed
      rw [← listed, Alphabet.size, List.replicate_succ, List.flatten_cons, List.cons_append,
        members_alphabet plain]

end Bracket

/-! ## Atoms -/

namespace Shorthand

theorem size_alphabet_pos (shorthand : Shorthand) : 0 < shorthand.alphabet.size := by
  cases shorthand <;> decide +kernel

theorem size_alphabet_le (shorthand : Shorthand) : shorthand.alphabet.size ≤ 94 := by
  cases shorthand <;> decide +kernel

end Shorthand

namespace Atom

theorem size_alphabet_pos {part : Atom} {rest : List Char} (stands : part.StandsBefore rest) :
    0 < part.alphabet.size := by
  cases part with
  | literal ch => exact Nat.one_pos
  | dot => exact Shorthand.size_alphabet_pos .nonSpace
  | hexEscape high low => exact Nat.one_pos
  | escape ch =>
      simp only [alphabet]
      split
      · exact Shorthand.size_alphabet_pos _
      · exact Nat.one_pos
  | bracket body =>
      cases body with
      | nil => exact absurd rfl stands.1
      | cons ch body =>
          have kept := BracketItem.size_le_size_appendAll #[ch] ch (BracketItem.read body)
          exact Nat.lt_of_lt_of_le Nat.one_pos kept

theorem size_alphabet_le (part : Atom) : part.alphabet.size ≤ part.text.length * 0x110000 := by
  cases part with
  | literal ch => simp [alphabet, Alphabet.single, Alphabet.size, text]
  | dot => exact Nat.le_trans (Shorthand.size_alphabet_le .nonSpace) (by decide)
  | hexEscape high low => simp [alphabet, Alphabet.single, Alphabet.size, text]
  | escape ch =>
      simp only [alphabet]
      split
      · exact Nat.le_trans (Shorthand.size_alphabet_le _) (by simp [text])
      · simp [Alphabet.single, Alphabet.size, text]
  | bracket body =>
      cases body with
      | nil => decide
      | cons ch body =>
          have listed := BracketItem.size_appendAll_le #[ch] ch (BracketItem.read body)
          have items := Nat.mul_le_mul_right 0x110000 (BracketItem.length_read_le body)
          simp only [alphabet, Bracket.alphabet, Alphabet.size, text, List.length_append,
            List.length_cons, List.length_nil] at listed ⊢
          simp at listed
          omega

/-- A row of ranges in brackets is an atom, whatever follows it. -/
theorem standsBefore_ranges {first last : Char} (opened : first ≠ ']') (unclosed : last ≠ ']')
    {count : Nat} (filled : count ≠ 0) (rest : List Char) :
    (bracket (List.replicate count [first, '-', last]).flatten).StandsBefore rest := by
  constructor
  · simpa using filled
  · simp [opened.symm, unclosed.symm]

end Atom

end PatternDraw
