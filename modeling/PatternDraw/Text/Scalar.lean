/-!
# Runs of Unicode scalar values

A character is a code point outside the surrogate gap.  This file lists the characters of a
run of code points in ascending order; code points in the gap, or beyond the last one, have
no character and are passed over.
-/

namespace PatternDraw.Text

/-- The character with the given code point, if the code point has one. -/
def scalar? (code : Nat) : Option Char :=
  if code.isValidChar then some (Char.ofNat code) else none

/-- Append the characters of `length` consecutive code points, the first being `first`. -/
def appendRun (members : Array Char) (first : Nat) : Nat → Array Char
  | 0 => members
  | length + 1 =>
      match scalar? first with
      | some ch => appendRun (members.push ch) (first + 1) length
      | none => appendRun members (first + 1) length

/-- Append the characters from code point `first` to code point `last`, both included. -/
def appendInterval (members : Array Char) (first last : Nat) : Array Char :=
  appendRun members first (last + 1 - first)

theorem scalar?_eq_some_iff {code : Nat} {ch : Char} :
    scalar? code = some ch ↔ code = ch.toNat := by
  constructor
  · intro scalar
    unfold scalar? at scalar
    split at scalar
    · rename_i valid
      cases scalar
      unfold Char.ofNat
      rw [dif_pos valid]
      rfl
    · simp at scalar
  · rintro rfl
    have valid : ch.toNat.isValidChar := ch.valid
    simp [scalar?, valid]

/-- A run is listed one code point at a time. -/
theorem toList_appendRun (members : Array Char) (first length : Nat) :
    (appendRun members first length).toList =
      members.toList ++ (List.range' first length).filterMap scalar? := by
  induction length generalizing members first with
  | zero => simp [appendRun]
  | succ length ih =>
      cases found : scalar? first with
      | none => simp [appendRun, found, ih, List.range'_succ]
      | some ch => simp [appendRun, found, ih, List.range'_succ]

end PatternDraw.Text
