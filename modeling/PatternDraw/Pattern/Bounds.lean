import PatternDraw.Text.Decimal

/-!
# How often something is repeated

The text between braces is a count, or two counts around a comma, either of which may be left
out: the lower one is then zero and the upper one open.
-/

namespace PatternDraw

/-- The least and the greatest number of repetitions; the greatest may be left open. -/
structure Bounds where
  /-- The least number of repetitions. -/
  lower : Nat
  /-- The greatest number of repetitions, unless it is open. -/
  upper : Option Nat
  deriving DecidableEq, Repr, Inhabited

namespace Bounds

/-- What is wrong with a text between braces. -/
inductive BodyFault where
  /-- The character at `index` is neither a digit nor a comma. -/
  | foreign (index : Nat) (ch : Char)
  /-- The digits and commas do not form bounds. -/
  | malformed
  deriving DecidableEq, Repr, Inhabited

/-- Whether a character may stand between braces. -/
def isBodyChar (ch : Char) : Bool :=
  Text.Decimal.isDigit ch || ch == ','

/-- The first character that may not stand between braces, with its index. -/
def firstForeign? (index : Nat) : List Char → Option (Nat × Char)
  | [] => none
  | ch :: rest => if isBodyChar ch then firstForeign? (index + 1) rest else some (index, ch)

/-- The count before the comma: zero when it is left out. -/
def readLower? (digits : List Char) : Option Nat :=
  if digits.isEmpty then some 0 else Text.Decimal.read? digits

/-- The count behind the comma: open when it is left out. -/
def readUpper? (digits : List Char) : Option (Option Nat) :=
  if digits.isEmpty then some none else (Text.Decimal.read? digits).map some

/-- Read a text of digits and commas. -/
def readDigits? (body : List Char) : Option Bounds :=
  match body.dropWhile (· != ',') with
  | [] => (Text.Decimal.read? body).map fun count => ⟨count, some count⟩
  | _ :: upperDigits => do
      let lower ← readLower? (body.takeWhile (· != ','))
      let upper ← readUpper? upperDigits
      return ⟨lower, upper⟩

/-- Read the text between braces. -/
def read (body : List Char) : Except BodyFault Bounds :=
  match firstForeign? 0 body with
  | some (index, ch) => .error (.foreign index ch)
  | none =>
      match readDigits? body with
      | some bounds => .ok bounds
      | none => .error .malformed

end Bounds

end PatternDraw
