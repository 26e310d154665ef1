import Mathlib.Algebra.Group.Nat.Defs
import Mathlib.Data.List.TakeWhile
import PatternDraw.Pattern.Bounds

/-!
# Texts between braces

A text between braces denotes bounds if it is a numeral, or a comma with an optional numeral
on each side.  The bounds that are read are exactly the bounds that are denoted, so a text
without a reading denotes nothing.
-/

namespace PatternDraw.Bounds

open Text

/-! ## What a text denotes -/

/-- Decimal digits that spell a count of 64 bits, leading zeros allowed. -/
def IsNumeral (digits : List Char) (count : Nat) : Prop :=
  digits ≠ [] ∧ (∀ ch ∈ digits, Decimal.isDigit ch = true) ∧
    Decimal.value digits = count ∧ count < 2 ^ 64

/-- The text before the comma: a numeral, or nothing for zero. -/
def IsLower (digits : List Char) (lower : Nat) : Prop :=
  digits = [] ∧ lower = 0 ∨ IsNumeral digits lower

/-- The text behind the comma: a numeral, or nothing for an open bound. -/
def IsUpper (digits : List Char) : Option Nat → Prop
  | none => digits = []
  | some upper => IsNumeral digits upper

/-- The texts between braces, with the bounds that they denote. -/
inductive Denoted : List Char → Bounds → Prop
  | exact {digits : List Char} {count : Nat} (numeral : IsNumeral digits count) :
      Denoted digits ⟨count, some count⟩
  | range {lowerDigits upperDigits : List Char} {lower : Nat} {upper : Option Nat}
      (lowerSpelled : IsLower lowerDigits lower) (upperSpelled : IsUpper upperDigits upper) :
      Denoted (lowerDigits ++ ',' :: upperDigits) ⟨lower, upper⟩

/-- A character that is no digit is in no numeral. -/
theorem IsNumeral.not_mem {digits : List Char} {count : Nat} {ch : Char}
    (numeral : IsNumeral digits count) (other : Decimal.isDigit ch = false) : ch ∉ digits := by
  intro member
  rw [numeral.2.1 ch member] at other
  contradiction

theorem IsLower.not_mem {digits : List Char} {lower : Nat} {ch : Char}
    (spelled : IsLower digits lower) (other : Decimal.isDigit ch = false) : ch ∉ digits := by
  rcases spelled with ⟨rfl, _⟩ | numeral
  · exact List.not_mem_nil
  · exact numeral.not_mem other

theorem IsUpper.not_mem {digits : List Char} {upper : Option Nat} {ch : Char}
    (spelled : IsUpper digits upper) (other : Decimal.isDigit ch = false) : ch ∉ digits := by
  cases upper with
  | none =>
      cases spelled
      exact List.not_mem_nil
  | some upper => exact IsNumeral.not_mem spelled other

/-- Only digits and commas occur in a text that denotes bounds. -/
theorem Denoted.isBodyChar {body : List Char} {bounds : Bounds} (denoted : Denoted body bounds) :
    ∀ ch ∈ body, isBodyChar ch = true := by
  intro ch member
  by_contra foreign
  obtain ⟨other, notComma⟩ : Decimal.isDigit ch = false ∧ ch ≠ ',' := by
    simpa [Bounds.isBodyChar] using foreign
  cases denoted with
  | exact numeral => exact numeral.not_mem other member
  | range lowerSpelled upperSpelled =>
      rcases List.mem_append.mp member with lowerMember | behind
      · exact lowerSpelled.not_mem other lowerMember
      · rcases List.mem_cons.mp behind with isComma | upperMember
        · exact notComma isComma
        · exact upperSpelled.not_mem other upperMember

/-- Digits and commas do not close braces. -/
theorem not_mem_of_isBodyChar {body : List Char} (allowed : ∀ ch ∈ body, isBodyChar ch = true) :
    '\x7d' ∉ body := by
  intro member
  have closing := allowed _ member
  revert closing
  decide

/-! ## What is read -/

theorem read?_eq_some_iff_isNumeral {digits : List Char} {count : Nat} :
    Decimal.read? digits = some count ↔ IsNumeral digits count :=
  Decimal.read?_eq_some_iff

theorem readLower?_eq_some_iff {digits : List Char} {lower : Nat} :
    readLower? digits = some lower ↔ IsLower digits lower := by
  cases digits with
  | nil =>
      constructor
      · intro read
        exact .inl ⟨rfl, (Option.some.inj read).symm⟩
      · rintro (⟨_, rfl⟩ | ⟨nonempty, _⟩)
        · rfl
        · exact absurd rfl nonempty
  | cons ch rest => simp [readLower?, IsLower, read?_eq_some_iff_isNumeral]

theorem readUpper?_eq_some_iff {digits : List Char} {upper : Option Nat} :
    readUpper? digits = some upper ↔ IsUpper digits upper := by
  cases digits with
  | nil => cases upper <;> simp [readUpper?, IsUpper, IsNumeral]
  | cons ch rest => cases upper <;> simp [readUpper?, IsUpper, read?_eq_some_iff_isNumeral]

theorem firstForeign?_eq_none_iff {index : Nat} {body : List Char} :
    firstForeign? index body = none ↔ ∀ ch ∈ body, isBodyChar ch = true := by
  induction body generalizing index with
  | nil => simp [firstForeign?]
  | cons ch rest ih =>
      cases allowed : isBodyChar ch with
      | false => simp [firstForeign?, allowed]
      | true => simp [firstForeign?, allowed, ih]

private theorem ne_comma_of_not_mem {text : List Char} (noComma : ',' ∉ text) :
    ∀ ch ∈ text, (ch != ',') = true := by
  intro ch member
  simp only [bne_iff_ne, ne_eq]
  rintro rfl
  exact noComma member

/-- A text without a comma is a count. -/
theorem readDigits?_of_comma_not_mem {body : List Char} (noComma : ',' ∉ body) :
    readDigits? body = (Decimal.read? body).map fun count => ⟨count, some count⟩ := by
  rw [readDigits?, List.dropWhile_eq_nil_iff.mpr (ne_comma_of_not_mem noComma)]

/-- A text with a comma is cut at the first one. -/
theorem readDigits?_append_comma {lowerDigits upperDigits : List Char}
    (noComma : ',' ∉ lowerDigits) :
    readDigits? (lowerDigits ++ ',' :: upperDigits) =
      (readLower? lowerDigits).bind fun lower =>
        (readUpper? upperDigits).map fun upper => ⟨lower, upper⟩ := by
  have kept := ne_comma_of_not_mem noComma
  have lowerEq : (lowerDigits ++ ',' :: upperDigits).takeWhile (· != ',') = lowerDigits := by
    rw [List.takeWhile_append_of_pos kept]
    exact List.append_nil lowerDigits
  have upperEq : (lowerDigits ++ ',' :: upperDigits).dropWhile (· != ',') =
      ',' :: upperDigits := by
    rw [List.dropWhile_append_of_pos kept]
    rfl
  rw [readDigits?, lowerEq, upperEq]
  dsimp only
  cases readLower? lowerDigits with
  | none => rfl
  | some lower => cases readUpper? upperDigits <;> rfl

theorem readDigits?_eq_some_iff {body : List Char} {bounds : Bounds} :
    readDigits? body = some bounds ↔ Denoted body bounds := by
  constructor
  · intro read
    by_cases comma : ',' ∈ body
    · obtain ⟨lowerDigits, upperDigits, rfl, noComma⟩ := List.eq_append_cons_of_mem comma
      rw [readDigits?_append_comma noComma] at read
      rcases Option.bind_eq_some_iff.mp read with ⟨lower, lowerRead, afterLower⟩
      rcases Option.map_eq_some_iff.mp afterLower with ⟨upper, upperRead, rfl⟩
      exact .range (readLower?_eq_some_iff.mp lowerRead) (readUpper?_eq_some_iff.mp upperRead)
    · rw [readDigits?_of_comma_not_mem comma] at read
      rcases Option.map_eq_some_iff.mp read with ⟨count, countRead, rfl⟩
      exact .exact (read?_eq_some_iff_isNumeral.mp countRead)
  · intro denoted
    cases denoted with
    | exact numeral =>
        rw [readDigits?_of_comma_not_mem (numeral.not_mem (by decide)),
          read?_eq_some_iff_isNumeral.mpr numeral]
        rfl
    | range lowerSpelled upperSpelled =>
        rw [readDigits?_append_comma (lowerSpelled.not_mem (by decide)),
          readLower?_eq_some_iff.mpr lowerSpelled, readUpper?_eq_some_iff.mpr upperSpelled]
        rfl

/-- The bounds that are read from a text are those that it denotes. -/
theorem read_eq_ok_iff {body : List Char} {bounds : Bounds} :
    read body = .ok bounds ↔ Denoted body bounds := by
  constructor
  · intro accepted
    unfold read at accepted
    split at accepted
    · contradiction
    · split at accepted
      · rename_i readBounds digitsRead
        cases accepted
        exact readDigits?_eq_some_iff.mp digitsRead
      · contradiction
  · intro denoted
    rw [read, firstForeign?_eq_none_iff.mpr denoted.isBodyChar,
      readDigits?_eq_some_iff.mpr denoted]

/-! ## What is not read -/

theorem firstForeign?_append_cons {digits : List Char} {ch : Char}
    (allowed : ∀ digit ∈ digits, isBodyChar digit = true) (foreign : isBodyChar ch = false)
    (index : Nat) (more : List Char) :
    firstForeign? index (digits ++ ch :: more) = some (index + digits.length, ch) := by
  induction digits generalizing index with
  | nil => simp [firstForeign?, foreign]
  | cons digit rest ih =>
      have restAllowed : ∀ digit ∈ rest, isBodyChar digit = true :=
        fun digit member => allowed digit (List.mem_cons_of_mem _ member)
      rw [List.cons_append, firstForeign?, if_pos (allowed digit List.mem_cons_self),
        ih restAllowed]
      simp [Nat.add_comm, Nat.add_left_comm]

/-- A text with a character that is neither a digit nor a comma has a first one. -/
theorem exists_first_foreign {body : List Char}
    (foreign : ¬ ∀ ch ∈ body, isBodyChar ch = true) :
    ∃ digits ch more, body = digits ++ ch :: more ∧
      (∀ digit ∈ digits, isBodyChar digit = true) ∧ isBodyChar ch = false := by
  cases found : body.find? (fun ch => ! isBodyChar ch) with
  | none => exact absurd (by simpa using found) foreign
  | some ch =>
      obtain ⟨isForeign, digits, more, bodyEq, before⟩ := List.find?_eq_some_iff_append.mp found
      exact ⟨digits, ch, more, bodyEq, by simpa using before, by simpa using isForeign⟩

/-- A text is refused for the first character that is neither a digit nor a comma. -/
theorem read_append_cons_of_foreign {digits : List Char} {ch : Char}
    (allowed : ∀ digit ∈ digits, isBodyChar digit = true) (foreign : isBodyChar ch = false)
    (more : List Char) :
    read (digits ++ ch :: more) = .error (.foreign digits.length ch) := by
  rw [read, firstForeign?_append_cons allowed foreign, Nat.zero_add]

/-- Digits and commas that denote nothing are refused as a whole. -/
theorem read_of_forall_not_denoted {body : List Char}
    (allowed : ∀ ch ∈ body, isBodyChar ch = true)
    (meaningless : ∀ bounds, ¬ Denoted body bounds) : read body = .error .malformed := by
  cases digitsRead : readDigits? body with
  | none => rw [read, firstForeign?_eq_none_iff.mpr allowed, digitsRead]
  | some bounds => exact absurd (readDigits?_eq_some_iff.mp digitsRead) (meaningless bounds)

private theorem isDigit_of_isBodyChar {text : List Char}
    (allowed : ∀ ch ∈ text, isBodyChar ch = true) (noComma : ',' ∉ text) :
    ∀ ch ∈ text, Decimal.isDigit ch = true := by
  intro ch member
  have notComma : ch ≠ ',' := fun equal => noComma (equal ▸ member)
  simpa [isBodyChar, notComma] using allowed ch member

private theorem isNumeral_of_value_lt {text : List Char}
    (allowed : ∀ ch ∈ text, isBodyChar ch = true) (noComma : ',' ∉ text) (nonempty : text ≠ [])
    (fits : Decimal.value text < 2 ^ 64) : IsNumeral text (Decimal.value text) :=
  ⟨nonempty, isDigit_of_isBodyChar allowed noComma, rfl, fits⟩

/-- Digits and commas denote nothing only if there are none, if there is more than one comma or
if one of the numbers does not fit 64 bits. -/
theorem defect_of_forall_not_denoted {body : List Char}
    (allowed : ∀ ch ∈ body, isBodyChar ch = true)
    (meaningless : ∀ bounds, ¬ Denoted body bounds) :
    body = [] ∨ 2 ≤ body.count ',' ∨
      ∃ digits ∈ body.splitOn ',', 2 ^ 64 ≤ Decimal.value digits := by
  by_contra sound
  simp only [not_or, not_exists, not_and, Nat.not_le] at sound
  obtain ⟨nonempty, fewCommas, fits⟩ := sound
  by_cases comma : ',' ∈ body
  · obtain ⟨lowerDigits, upperDigits, rfl, lowerPlain⟩ := List.eq_append_cons_of_mem comma
    have upperPlain : ',' ∉ upperDigits := by
      intro member
      have counted := List.count_pos_iff.mpr member
      simp only [List.count_append, List.count_cons_self] at fewCommas
      omega
    rw [List.splitOn_append_cons_self_of_not_mem lowerPlain,
      List.splitOn_eq_singleton upperPlain] at fits
    have lowerAllowed : ∀ ch ∈ lowerDigits, isBodyChar ch = true :=
      fun ch member => allowed ch (List.mem_append_left _ member)
    have upperAllowed : ∀ ch ∈ upperDigits, isBodyChar ch = true :=
      fun ch member => allowed ch (List.mem_append_right _ (List.mem_cons_of_mem _ member))
    have lowerFits := fits lowerDigits (by simp)
    have upperFits := fits upperDigits (by simp)
    obtain ⟨lower, lowerSpelled⟩ : ∃ lower, IsLower lowerDigits lower := by
      by_cases empty : lowerDigits = []
      · exact ⟨0, .inl ⟨empty, rfl⟩⟩
      · exact ⟨_, .inr (isNumeral_of_value_lt lowerAllowed lowerPlain empty lowerFits)⟩
    obtain ⟨upper, upperSpelled⟩ : ∃ upper, IsUpper upperDigits upper := by
      by_cases empty : upperDigits = []
      · exact ⟨none, empty⟩
      · exact ⟨some _, isNumeral_of_value_lt upperAllowed upperPlain empty upperFits⟩
    exact meaningless _ (.range lowerSpelled upperSpelled)
  · rw [List.splitOn_eq_singleton comma] at fits
    have numeral := isNumeral_of_value_lt allowed comma nonempty (fits body (by simp))
    exact meaningless _ (.exact numeral)

/-! ## Defects -/

/-- Only ASCII digits and commas. -/
def IsNumeric (text : List Char) : Prop :=
  ∀ ch ∈ text, ch.isDigit = true ∨ ch = ','

/-- What keeps digits and commas from being bounds: there are none, there is more than one comma,
or one of the numbers does not fit 64 bits. -/
def IsDefective (body : List Char) : Prop :=
  body = [] ∨ 2 ≤ body.count ',' ∨ ∃ digits ∈ body.splitOn ',', 2 ^ 64 ≤ Decimal.value digits

theorem isDigit_eq (ch : Char) : Decimal.isDigit ch = ch.isDigit :=
  rfl

theorem isBodyChar_iff {ch : Char} : isBodyChar ch = true ↔ ch.isDigit = true ∨ ch = ',' := by
  rw [isBodyChar, isDigit_eq, Bool.or_eq_true, beq_iff_eq]

theorem isNumeric_iff {text : List Char} :
    IsNumeric text ↔ ∀ ch ∈ text, isBodyChar ch = true := by
  simp only [IsNumeric, isBodyChar_iff]

theorem IsLower.value_lt {digits : List Char} {lower : Nat} (spelled : IsLower digits lower) :
    Decimal.value digits < 2 ^ 64 := by
  rcases spelled with ⟨rfl, _⟩ | ⟨_, _, rfl, fits⟩
  · decide
  · exact fits

theorem IsUpper.value_lt {digits : List Char} {upper : Option Nat}
    (spelled : IsUpper digits upper) : Decimal.value digits < 2 ^ 64 := by
  cases upper with
  | none => exact IsLower.value_lt (.inl ⟨spelled, rfl⟩)
  | some upper => exact IsLower.value_lt (.inr spelled)

/-- A text that denotes bounds has none of the defects. -/
theorem Denoted.not_isDefective {body : List Char} {bounds : Bounds}
    (denoted : Denoted body bounds) : ¬ IsDefective body := by
  cases denoted with
  | exact numeral =>
      have noComma : ',' ∉ body := numeral.not_mem (by decide)
      rintro (empty | many | ⟨digits, member, large⟩)
      · exact numeral.1 empty
      · rw [List.count_eq_zero_of_not_mem noComma] at many
        omega
      · rw [List.splitOn_eq_singleton noComma, List.mem_singleton] at member
        subst member
        exact absurd (IsLower.value_lt (.inr numeral)) (Nat.not_lt.mpr large)
  | @range lowerDigits upperDigits _ _ lowerSpelled upperSpelled =>
      have lowerPlain : ',' ∉ lowerDigits := lowerSpelled.not_mem (by decide)
      have upperPlain : ',' ∉ upperDigits := upperSpelled.not_mem (by decide)
      rintro (empty | many | ⟨digits, member, large⟩)
      · exact List.append_ne_nil_of_right_ne_nil _ (List.cons_ne_nil _ _) empty
      · rw [List.count_append, List.count_cons_self, List.count_eq_zero_of_not_mem lowerPlain,
          List.count_eq_zero_of_not_mem upperPlain] at many
        omega
      · rw [List.splitOn_append_cons_self_of_not_mem lowerPlain,
          List.splitOn_eq_singleton upperPlain, List.mem_cons, List.mem_singleton] at member
        rcases member with rfl | rfl
        · exact absurd lowerSpelled.value_lt (Nat.not_lt.mpr large)
        · exact absurd upperSpelled.value_lt (Nat.not_lt.mpr large)

/-- Digits and commas with a defect are refused as a whole. -/
theorem read_of_isDefective {body : List Char} (numeric : IsNumeric body)
    (defective : IsDefective body) : read body = .error .malformed :=
  read_of_forall_not_denoted (isNumeric_iff.mp numeric) fun _ denoted =>
    denoted.not_isDefective defective

end PatternDraw.Bounds
