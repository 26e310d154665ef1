/-!
# Decimal counts

Counts are written in ASCII decimal digits, with any number of leading zeros, and have to fit
an unsigned word of 64 bits.
-/

namespace PatternDraw.Text.Decimal

/-- The number of different counts: a count has 64 bits. -/
def countRange : Nat :=
  0x10000000000000000

/-- Whether a character is an ASCII decimal digit. -/
def isDigit (ch : Char) : Bool :=
  decide ('0' ≤ ch) && decide (ch ≤ '9')

/-- The value of a digit. -/
def digitValue (ch : Char) : Nat :=
  ch.toNat - '0'.toNat

/-- The value of a list of digits, the most significant first. -/
def value (digits : List Char) : Nat :=
  digits.foldl (fun total digit => 10 * total + digitValue digit) 0

/-- Read a count: at least one digit, nothing but digits, and a value below `countRange`. -/
def read? (text : List Char) : Option Nat :=
  if text.isEmpty || !text.all isDigit then none
  else if value text < countRange then some (value text) else none

/-- Read a count that may have a plus sign before it. -/
def readSigned? : List Char → Option Nat
  | '+' :: digits => read? digits
  | digits => read? digits

theorem read?_eq_some_iff {text : List Char} {count : Nat} :
    read? text = some count ↔
      text ≠ [] ∧ (∀ ch ∈ text, isDigit ch = true) ∧
        value text = count ∧ count < countRange := by
  unfold read?
  constructor
  · intro read
    split at read
    · simp at read
    · rename_i numeral
      split at read
      · rename_i fits
        cases read
        simp at numeral
        exact ⟨numeral.1, numeral.2, rfl, fits⟩
      · simp at read
  · rintro ⟨filled, digits, rfl, fits⟩
    simp [filled, fits]
    exact digits

end PatternDraw.Text.Decimal
