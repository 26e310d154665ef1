import PatternDraw.Proofs.Reading.Lookahead
import PatternDraw.Template

/-!
# Text that stands further behind

What is read does not depend on where it stands, except that every offset tells the place.
Reading a text that stands further behind therefore gives the same constructs, warnings and
fault with every offset moved by the same distance.
-/

namespace PatternDraw

/-! ## Moving offsets -/

/-- The slot of a construct that stands further behind. -/
def Slot.displace (distance : Nat) (slot : Slot) : Slot :=
  { slot with offset := slot.offset + distance }

/-- The warning about a character that stands further behind. -/
def Warning.displace (distance : Nat) (warning : Warning) : Warning :=
  { warning with offset := warning.offset + distance }

/-- The fault of a pattern that stands further behind. -/
def Fault.displace (distance : Nat) : Fault → Fault
  | unterminatedEscape offset => unterminatedEscape (offset + distance)
  | invalidHexEscape offset digits => invalidHexEscape (offset + distance) digits
  | unmatchedBracket offset => unmatchedBracket (offset + distance)
  | emptyBracket offset => emptyBracket (offset + distance)
  | invalidRepeatBody offset ch => invalidRepeatBody (offset + distance) ch
  | malformedRange offset body => malformedRange (offset + distance) body
  | invertedRange offset lower upper => invertedRange (offset + distance) lower upper
  | repeatTooLarge offset count limit => repeatTooLarge (offset + distance) count limit
  | danglingQuantifier offset => danglingQuantifier (offset + distance)
  | unknownLetter letter => unknownLetter letter

/-- The piece that stands further behind. -/
def Piece.displace (distance : Nat) (piece : Piece) : Piece :=
  { piece with offset := piece.offset + distance }

/-- The end of a reading further behind. -/
def Halt.displace (distance : Nat) (halt : Halt) : Halt :=
  ⟨halt.warnings.map (Warning.displace distance), halt.fault.displace distance⟩

namespace Scan

/-- The mode within a construct that stands further behind. -/
def Mode.displace (distance : Nat) : Mode → Mode
  | ready => ready
  | escape start => escape (start + distance)
  | hexEscape start => hexEscape (start + distance)
  | hexDigit start high => hexDigit (start + distance) high
  | bracket start seen => bracket (start + distance) seen
  | braces start seen => braces (start + distance) seen

/-- The step from a character that stands further behind. -/
def Step.displace (distance : Nat) : Step → Step
  | advance mode => advance (mode.displace distance)
  | finish piece => finish (piece.displace distance)
  | stop halt => stop (halt.displace distance)

/-- The reading of a text that stands further behind. -/
def displace (distance : Nat) (scan : Scan) : Scan :=
  ⟨scan.pieces.map (Piece.displace distance), scan.halt.map (Halt.displace distance)⟩

end Scan

/-! ## Warnings -/

namespace BracketItem

theorem warnings_displace (distance : Nat) (start : Char) (offset : Nat) (item : BracketItem) :
    item.warnings start (offset + distance) =
      (item.warnings start offset).map (Warning.displace distance) := by
  cases item with
  | single ch => by_cases word : isWordChar ch <;> simp [warnings, word, Warning.displace]
  | rangeTo last =>
      by_cases ordered : start ≤ last <;>
        simp [warnings, ordered, Warning.displace, Nat.add_right_comm]

theorem allWarnings_displace (distance : Nat) (start : Char) (offset : Nat)
    (items : List BracketItem) :
    allWarnings start (offset + distance) items =
      (allWarnings start offset items).map (Warning.displace distance) := by
  induction items generalizing start offset with
  | nil => rfl
  | cons item rest ih =>
      rw [allWarnings, allWarnings, List.map_append, warnings_displace, Nat.add_right_comm, ih]

end BracketItem

theorem Bracket.warnings_displace (distance offset : Nat) (body : List Char) :
    warnings (offset + distance) body =
      (warnings offset body).map (Warning.displace distance) := by
  cases body with
  | nil => rfl
  | cons ch rest =>
      rw [warnings, warnings, List.map_append, BracketItem.warnings_displace,
        Nat.add_right_comm, BracketItem.allWarnings_displace]

theorem Atom.warnings_displace (distance offset : Nat) (part : Atom) :
    part.warnings (offset + distance) =
      (part.warnings offset).map (Warning.displace distance) := by
  cases part with
  | literal ch => by_cases mark : isMetacharacter ch <;> simp [warnings, mark, Warning.displace]
  | dot => rfl
  | hexEscape high low => rfl
  | escape ch =>
      by_cases octal : isOctalDigit ch
      · simp [warnings, octal, Warning.displace]
      · by_cases known : (Shorthand.ofChar? ch).isSome <;>
          simp [warnings, octal, known, Warning.displace]
  | bracket body =>
      simp only [warnings]
      rw [Nat.add_right_comm, Bracket.warnings_displace]

theorem Piece.warnings_displace (distance : Nat) (piece : Piece) :
    (piece.displace distance).warnings =
      piece.warnings.map (Warning.displace distance) := by
  rcases piece with ⟨offset, part | part⟩
  · exact Atom.warnings_displace distance offset part
  · rfl

/-! ## Reading -/

namespace Scan

theorem closeBraces_displace (distance start : Nat) (body : List Char) :
    closeBraces (start + distance) body = (closeBraces start body).displace distance := by
  unfold closeBraces
  split
  · rfl
  · simp only [Step.displace, Halt.displace, Fault.displace, List.map_nil]
    rw [Nat.add_right_comm start, Nat.add_right_comm]
  · rfl

theorem closesInRest_displace (distance offset : Nat) (rest : List Char) :
    closesInRest (offset + distance) rest = closesInRest offset rest :=
  rfl

theorem step_displace (distance offset : Nat) (ch : Char) (rest : List Char) (mode : Mode) :
    step closesInRest (offset + distance) ch rest (mode.displace distance) =
      (step closesInRest offset ch rest mode).displace distance := by
  cases mode with
  | ready =>
      simp only [step, Mode.displace, openStep]
      cases Opener.ofChar ch with
      | brace =>
          by_cases closed : closesInRest offset rest
          · simp only [closesInRest_displace, closed, if_true]
            rfl
          · simp only [closesInRest_displace, closed]
            rfl
      | _ => rfl
  | escape start =>
      simp only [step, Mode.displace]
      split <;> rfl
  | hexEscape start => rfl
  | hexDigit start high =>
      simp only [step, Mode.displace, closeHexEscape]
      split <;> rfl
  | bracket start seen =>
      simp only [step, Mode.displace, closeBracket]
      split
      · split <;> rfl
      · rfl
  | braces start seen =>
      simp only [step, Mode.displace, closeBraces_displace]
      split <;> rfl

theorem atEnd_displace (distance : Nat) (mode : Mode) :
    atEnd (mode.displace distance) = (atEnd mode).map (Halt.displace distance) := by
  cases mode with
  | bracket start seen =>
      simp only [atEnd, Mode.displace, Option.map_some, Halt.displace]
      rw [Nat.add_right_comm, Bracket.warnings_displace]
      rfl
  | _ => rfl

/-- A text is read in the same way wherever it stands. -/
theorem readFrom_displace (distance : Nat) (mode : Mode) (offset : Nat) (text : List Char) :
    readFrom closesInRest (mode.displace distance) (offset + distance) text =
      (readFrom closesInRest mode offset text).displace distance := by
  induction text generalizing mode offset with
  | nil =>
      rw [readFrom, atEnd_displace]
      rfl
  | cons ch rest ih =>
      rw [readFrom, readFrom, step_displace, Nat.add_right_comm]
      cases step closesInRest offset ch rest mode with
      | advance next => exact ih next (offset + 1)
      | finish piece =>
          simp only [Step.displace]
          rw [show Mode.ready = Mode.ready.displace distance from rfl, ih]
          rfl
      | stop halt => rfl

/-- What stands further behind is read as a pattern of its own that has been moved there. -/
theorem readFrom_eq_displace (distance : Nat) (text : List Char) :
    readFrom closesInRest .ready distance text = (ofPattern text).displace distance := by
  have displaced := readFrom_displace distance .ready 0 text
  rwa [Nat.zero_add, ← ofPattern_eq_readFrom] at displaced

end Scan

end PatternDraw
