import Mathlib.Data.Nat.PSub
import PatternDraw.Proofs.Compiling.Repetition
import PatternDraw.Proofs.Drawing.Candidates
import PatternDraw.Proofs.Drawing.Texts

/-!
# Guarded operations

Some operations make sense for a part of their arguments only: a number is chosen from an
interval that is not empty, a member is taken at an index below the size, one is subtracted from
a number that is not zero, a byte is less than 256, and a code point is at most U+10FFFF.  A
guarded operation checks this and has no result otherwise.  This file relates each of them to the
operation without a guard.
-/

namespace PatternDraw

variable {σ : Type} [EntropySource σ]

/-! ## Choices -/

namespace Uniform

/-- Choose a number from an interval; the interval must not be empty. -/
def between? (lower upper : Nat) (source : σ) : Option (Nat × σ) :=
  if lower ≤ upper then some (between lower upper source) else none

/-- Choose an index into a collection; the collection must not be empty. -/
def index? (size : Nat) (source : σ) : Option (Nat × σ) :=
  if size = 0 then none else some (index size source)

theorem between?_eq_some {lower upper : Nat} (ordered : lower ≤ upper) (source : σ) :
    between? lower upper source = some (between lower upper source) :=
  if_pos ordered

theorem index?_eq_some {size : Nat} (positive : 0 < size) (source : σ) :
    index? size source = some (index size source) :=
  if_neg (Nat.ne_of_gt positive)

end Uniform

namespace Alphabet

/-- Choose a candidate; the alphabet must not be empty and must have the drawn index. -/
def choose? (alphabet : Alphabet) (source : σ) : Option (Char × σ) := do
  let (index, source) ← Uniform.index? alphabet.size source
  let ch ← alphabet.get? index
  return (ch, source)

/-- Choose a candidate and add it to the text drawn so far. -/
def extend? (alphabet : Alphabet) (text : String) (source : σ) : Option (String × σ) := do
  let (ch, source) ← alphabet.choose? source
  return (text.push ch, source)

/-- From an alphabet with candidates a text is extended within the domain of all operations. -/
theorem extend?_eq_some {alphabet : Alphabet} (inhabited : 0 < alphabet.size) (text : String)
    (source : σ) : alphabet.extend? text source = some (alphabet.extend text source) := by
  have within : (Uniform.index alphabet.size source).1 < alphabet.members.size :=
    Uniform.index_lt inhabited source
  have found : alphabet.get? (Uniform.index alphabet.size source).1 =
      some alphabet.members[(Uniform.index alphabet.size source).1] :=
    Array.getElem?_eq_getElem within
  simp only [extend?, choose?, extend, choose, Uniform.index?_eq_some inhabited, found,
    Option.bind_eq_bind, Option.bind_some, Option.pure_def]

end Alphabet

/-! ## Characters -/

namespace Text

/-- Append the characters of consecutive code points, none of which is beyond the last one. -/
def appendRun? (members : Array Char) (first : Nat) : Nat → Option (Array Char)
  | 0 => some members
  | length + 1 =>
      if first ≤ 0x10ffff then
        match scalar? first with
        | some ch => appendRun? (members.push ch) (first + 1) length
        | none => appendRun? members (first + 1) length
      else none

/-- Append the characters between two code points, both included. -/
def appendInterval? (members : Array Char) (first last : Nat) : Option (Array Char) :=
  appendRun? members first (last + 1 - first)

theorem appendRun?_eq_some {first length : Nat} (within : first + length ≤ 0x110000)
    (members : Array Char) :
    appendRun? members first length = some (appendRun members first length) := by
  induction length generalizing first members with
  | zero => rfl
  | succ length ih =>
      have here : first ≤ 0x10ffff := by omega
      have onward : first + 1 + length ≤ 0x110000 := by omega
      rw [appendRun?, appendRun, if_pos here]
      cases scalar? first with
      | none => exact ih onward members
      | some ch => exact ih onward (members.push ch)

/-- A range that ends with a character lists no code point beyond the last one. -/
theorem appendInterval?_eq_some (members : Array Char) (first : Nat) (last : Char) :
    appendInterval? members first last.toNat =
      some (appendInterval members first last.toNat) := by
  have lastBound := toNat_lt last
  by_cases empty : last.toNat + 1 ≤ first
  · rw [appendInterval?, appendInterval, Nat.sub_eq_zero_of_le empty]
    rfl
  · exact appendRun?_eq_some (by omega) members

end Text

namespace BracketItem

/-- Append the characters that an entry lists. -/
def append? (members : Array Char) (start : Char) : BracketItem → Option (Array Char)
  | single ch => some (members.push ch)
  | rangeTo last => Text.appendInterval? members (start.toNat + 1) last.toNat

/-- Append the characters that the entries list. -/
def appendAll? (members : Array Char) (start : Char) : List BracketItem → Option (Array Char)
  | [] => some members
  | item :: rest => do
      let members ← item.append? members start
      appendAll? members (item.lastAfter start) rest

theorem append?_eq_some (members : Array Char) (start : Char) (item : BracketItem) :
    item.append? members start = some (item.append members start) := by
  cases item with
  | single ch => rfl
  | rangeTo last => exact Text.appendInterval?_eq_some members (start.toNat + 1) last

theorem appendAll?_eq_some (members : Array Char) (start : Char) (items : List BracketItem) :
    appendAll? members start items = some (appendAll members start items) := by
  induction items generalizing members start with
  | nil => rfl
  | cons item rest ih =>
      rw [appendAll?, append?_eq_some, Option.bind_eq_bind, Option.bind_some, ih]
      rfl

end BracketItem

/-- The alphabet that a bracketed text lists. -/
def Bracket.alphabet? : List Char → Option Alphabet
  | [] => some ⟨#[]⟩
  | ch :: rest => (BracketItem.appendAll? #[ch] ch (BracketItem.read rest)).map Alphabet.mk

/-- Every text in brackets is listed, whether the bracket closes or not. -/
theorem Bracket.alphabet?_eq_some (body : List Char) : alphabet? body = some (alphabet body) := by
  cases body with
  | nil => rfl
  | cons ch rest =>
      rw [alphabet?, BracketItem.appendAll?_eq_some]
      rfl

theorem hexDigit?_lt {ch : Char} {value : Nat} (digit : hexDigit? ch = some value) :
    value < 16 := by
  unfold hexDigit? at digit
  split at digit
  · rename_i decimal
    cases digit
    have upper : ch.toNat ≤ '9'.toNat := decimal.2
    have nine : '9'.toNat - '0'.toNat < 16 := by decide
    omega
  · split at digit
    · rename_i small
      cases digit
      have upper : ch.toNat ≤ 'f'.toNat := small.2
      have last : 'f'.toNat - 'a'.toNat + 10 < 16 := by decide
      omega
    · split at digit
      · rename_i capital
        cases digit
        have upper : ch.toNat ≤ 'F'.toNat := capital.2
        have last : 'F'.toNat - 'A'.toNat + 10 < 16 := by decide
        omega
      · cases digit

namespace Atom

/-- The character that two hexadecimal digits spell; its code point must be a byte. -/
def hexChar? (high low : Char) : Option Char := do
  let highValue ← hexDigit? high
  let lowValue ← hexDigit? low
  if 16 * highValue + lowValue < 256 then
    return Char.ofNat (16 * highValue + lowValue)
  else none

theorem hexChar?_eq_some {high low : Char} (highDigit : (hexDigit? high).isSome)
    (lowDigit : (hexDigit? low).isSome) : hexChar? high low = some (hexChar high low) := by
  obtain ⟨highValue, highEq⟩ := Option.isSome_iff_exists.mp highDigit
  obtain ⟨lowValue, lowEq⟩ := Option.isSome_iff_exists.mp lowDigit
  have highBound := hexDigit?_lt highEq
  have lowBound := hexDigit?_lt lowEq
  have byte : 16 * highValue + lowValue < 256 := by omega
  simp only [hexChar?, hexChar, highEq, lowEq, Option.bind_eq_bind, Option.bind_some, byte,
    if_true, Option.pure_def, Option.getD_some]

/-- The alphabet from which the position of an atom is drawn. -/
def alphabet? : Atom → Option Alphabet
  | hexEscape high low => (hexChar? high low).map .single
  | bracket body => Bracket.alphabet? body
  | part => some part.alphabet

theorem alphabet?_eq_some {part : Atom} {rest : List Char} (stands : part.StandsBefore rest) :
    part.alphabet? = some part.alphabet := by
  cases part with
  | hexEscape high low =>
      rw [alphabet?, hexChar?_eq_some stands.1 stands.2]
      rfl
  | bracket body => exact Bracket.alphabet?_eq_some body
  | _ => rfl

end Atom

/-! ## Slots -/

namespace Template

/-- The template with one more slot, which must have candidates. -/
def push? (template : Template) (slot : Slot) : Option Template :=
  if slot.alphabet.isEmpty then none else some (template.push slot)

/-- Repeat the last slot so that there are `count` of it: without it for zero, and else with
`count - 1` more copies. -/
def replaceLast? (template : Template) (count : Nat) (slot : Slot) : Option Template :=
  if count = 0 then some ⟨template.slots.pop⟩
  else count.ppred.map fun more => ⟨template.slots ++ Array.replicate more slot⟩

/-- Draw a text: one character for each slot in order. -/
def draw? (template : Template) (source : σ) : Option (String × σ) :=
  template.slots.foldlM (fun drawn slot => slot.alphabet.extend? drawn.1 drawn.2) ("", source)

theorem push?_eq_some (template : Template) {slot : Slot} (inhabited : 0 < slot.alphabet.size) :
    template.push? slot = some (template.push slot) :=
  if_neg (Alphabet.size_pos_iff.mp inhabited)

/-- The last slot and its further copies are the copies in its place. -/
theorem replaceLast?_eq_some {template : Template} {slot : Slot}
    (last : template.last? = some slot) (count : Nat) :
    template.replaceLast? count slot = some (template.replaceLast count slot) := by
  cases count with
  | zero => simp [replaceLast?, replaceLast]
  | succ more =>
      have copies : (⟨template.slots ++ Array.replicate more slot⟩ : Template) =
          template.replaceLast (more + 1) slot := by
        obtain ⟨before, slots⟩ := last?_eq_some_iff.mp last
        refine toList_injective ?_
        rw [toList_replaceLast_of_eq slots, List.replicate_succ]
        change (template.slots ++ Array.replicate more slot).toList = _
        rw [Array.toList_append, Array.toList_replicate, ← toList, slots, List.append_assoc,
          List.singleton_append]
      rw [replaceLast?, if_neg (Nat.succ_ne_zero more), Nat.ppred_succ, Option.map_some, copies]

/-- From slots with candidates a text is drawn within the domain of all operations. -/
theorem draw?_eq_some {template : Template}
    (inhabited : ∀ slot ∈ template.toList, 0 < slot.alphabet.size) (source : σ) :
    template.draw? source = some (template.draw source) := by
  rw [draw?, draw, ← Array.foldlM_toList, ← Array.foldl_toList, ← toList]
  generalize template.toList = slots at inhabited
  generalize ("", source) = drawn
  induction slots generalizing drawn with
  | nil => rfl
  | cons slot rest ih =>
      have here := Alphabet.extend?_eq_some (inhabited slot List.mem_cons_self) drawn.1 drawn.2
      rw [List.foldlM_cons, List.foldl_cons, here]
      exact ih (fun slot member => inhabited slot (List.mem_cons_of_mem _ member)) _

end Template

end PatternDraw
