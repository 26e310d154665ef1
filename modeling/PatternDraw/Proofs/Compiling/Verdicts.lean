import Mathlib.Data.List.Basic
import PatternDraw.Proofs.Compiling.Concatenation
import PatternDraw.Proofs.Reading.Braces

/-!
# What braces lead to

Behind a pattern that compiles, the text between braces is checked in a fixed order: its
characters, whether they spell bounds, the order of the bounds, the limit, and whether there is a
slot to repeat.  The first check that fails decides, and a number of repetitions is drawn only
behind the last one.
-/

namespace PatternDraw

namespace Compilation

variable {σ : Type} [EntropySource σ]

/-- What braces at `offset` with the text `body` lead to behind a template: an outcome, and what is
then left of the source.  The cases stand in the order of the checks, and each of them rules out
those before it. -/
inductive Verdict (limits : Limits) (offset : Nat) (body : List Char) (template : Template)
    (source : σ) : Except Fault Template → σ → Prop
  | foreign {digits more : List Char} {ch : Char} (text : body = digits ++ ch :: more)
      (numeric : Bounds.IsNumeric digits) (isForeign : ¬ (ch.isDigit = true ∨ ch = ',')) :
      Verdict limits offset body template source
        (.error (.invalidRepeatBody (offset + 1 + digits.length) ch)) source
  | malformed (numeric : Bounds.IsNumeric body) (defective : Bounds.IsDefective body) :
      Verdict limits offset body template source
        (.error (.malformedRange offset (String.ofList body))) source
  | inverted {bounds : Bounds} (denoted : Bounds.Denoted body bounds)
      (inverted : upperBound limits bounds < bounds.lower) :
      Verdict limits offset body template source
        (.error (.invertedRange offset bounds.lower (upperBound limits bounds))) source
  | overLimit {bounds : Bounds} (denoted : Bounds.Denoted body bounds)
      (ordered : bounds.lower ≤ upperBound limits bounds)
      (exceeds : limits.repeatLimit < upperBound limits bounds) :
      Verdict limits offset body template source
        (.error (.repeatTooLarge offset (upperBound limits bounds) limits.repeatLimit)) source
  | dangling {bounds : Bounds} (denoted : Bounds.Denoted body bounds)
      (allowed : Allowed limits bounds) (empty : template.toList = []) :
      Verdict limits offset body template source (.error (.danglingQuantifier offset)) source
  | repeated {bounds : Bounds} (denoted : Bounds.Denoted body bounds)
      (allowed : Allowed limits bounds) {earlier : List Slot} {slot : Slot}
      (slots : template.toList = earlier ++ [slot]) {count : Nat} {rest : σ}
      (chosen : chooseCount bounds.lower (upperBound limits bounds) source = (count, rest))
      (least : bounds.lower ≤ count) (greatest : count ≤ upperBound limits bounds)
      (held : count ≤ limits.capacity) {result : Template}
      (copied : result.toList = earlier ++ List.replicate count slot) :
      Verdict limits offset body template source (.ok result) rest
  | overCapacity {bounds : Bounds} (denoted : Bounds.Denoted body bounds)
      (allowed : Allowed limits bounds) {earlier : List Slot} {slot : Slot}
      (slots : template.toList = earlier ++ [slot]) {count : Nat} {rest : σ}
      (chosen : chooseCount bounds.lower (upperBound limits bounds) source = (count, rest))
      (exceeds : limits.capacity < count) :
      Verdict limits offset body template source
        (.error (.repeatTooLarge offset count limits.repeatLimit)) rest

/-! ## Every text has a verdict -/

theorem exists_verdict_of_denoted (limits : Limits) (offset : Nat) {body : List Char}
    {bounds : Bounds} (denoted : Bounds.Denoted body bounds) (template : Template) (source : σ) :
    ∃ outcome rest, Verdict limits offset body template source outcome rest := by
  by_cases inverted : upperBound limits bounds < bounds.lower
  · exact ⟨_, _, .inverted denoted inverted⟩
  have ordered := Nat.le_of_not_lt inverted
  by_cases exceeds : limits.repeatLimit < upperBound limits bounds
  · exact ⟨_, _, .overLimit denoted ordered exceeds⟩
  have allowed : Allowed limits bounds := ⟨ordered, Nat.le_of_not_lt exceeds⟩
  rcases List.eq_nil_or_concat' template.toList with empty | ⟨earlier, slot, slots⟩
  · exact ⟨_, _, .dangling denoted allowed empty⟩
  cases chosen : chooseCount bounds.lower (upperBound limits bounds) source with
  | mk count rest =>
      by_cases beyond : limits.capacity < count
      · exact ⟨_, _, .overCapacity denoted allowed slots chosen beyond⟩
      · have least := lower_le_chooseCount bounds.lower (upperBound limits bounds) source
        have greatest := chooseCount_le_upper ordered source
        rw [chosen] at least greatest
        exact ⟨_, _, .repeated denoted allowed slots chosen least greatest
          (Nat.le_of_not_lt beyond) (Template.toList_replaceLast_of_eq slots count)⟩

/-- Whatever is between the braces, there is a verdict on it. -/
theorem exists_verdict (limits : Limits) (offset : Nat) (body : List Char) (template : Template)
    (source : σ) : ∃ outcome rest, Verdict limits offset body template source outcome rest := by
  by_cases numeric : ∀ ch ∈ body, Bounds.isBodyChar ch = true
  · by_cases denotes : ∃ bounds, Bounds.Denoted body bounds
    · obtain ⟨bounds, denoted⟩ := denotes
      exact exists_verdict_of_denoted limits offset denoted template source
    · have defective := Bounds.defect_of_forall_not_denoted numeric (not_exists.mp denotes)
      exact ⟨_, _, .malformed (Bounds.isNumeric_iff.mpr numeric) defective⟩
  · obtain ⟨digits, ch, more, text, allowed, foreign⟩ := Bounds.exists_first_foreign numeric
    rw [← Bool.not_eq_true, Bounds.isBodyChar_iff] at foreign
    exact ⟨_, _, .foreign text (Bounds.isNumeric_iff.mpr allowed) foreign⟩

/-! ## The verdict is carried out -/

/-- A quantifier behind which nothing stands decides about the compilation. -/
theorem ofPieces_quantifier (limits : Limits) (offset : Nat) (part : Quantifier)
    (template : Template) (source : σ) :
    ofPieces limits none [⟨offset, .quantifier part⟩] template source =
      ⟨(repeatLast limits offset part.bounds template source).1, [],
        (repeatLast limits offset part.bounds template source).2⟩ := by
  cases repeated : repeatLast limits offset part.bounds template source with
  | mk outcome rest =>
      have applied : applyPiece limits ⟨offset, .quantifier part⟩ template source =
          (outcome, rest) := repeated
      cases outcome with
      | ok next => exact ofPieces_of_ok applied []
      | error fault => exact ofPieces_of_error applied []

/-- The reading of closed braces, compiled from a template on, comes to the verdict on them. -/
theorem ofPieces_of_verdict {limits : Limits} {offset : Nat} {body : List Char}
    {template : Template} {source rest : σ} {outcome : Except Fault Template}
    (verdict : Verdict limits offset body template source outcome rest)
    (unclosed : '\x7d' ∉ body) :
    let reading := Scan.readFrom Scan.closesInRest .ready offset ('\x7b' :: body ++ ['\x7d'])
    ofPieces limits reading.halt reading.pieces template source = ⟨outcome, [], rest⟩ := by
  intro reading
  have braces := Scan.readFrom_closedBraces unclosed offset []
  -- A text that denotes bounds is read as a quantifier; the two faults of the text stop the reading.
  have read_of_denoted {bounds : Bounds} (denoted : Bounds.Denoted body bounds) :
      ofPieces limits reading.halt reading.pieces template source =
        ⟨(repeatLast limits offset bounds template source).1, [],
          (repeatLast limits offset bounds template source).2⟩ := by
    rw [Bounds.read_eq_ok_iff.mpr denoted] at braces
    unfold reading
    rw [braces]
    exact ofPieces_quantifier limits offset (.braces body bounds) template source
  cases verdict with
  | foreign text numeric isForeign =>
      rw [← Bounds.isBodyChar_iff, Bool.not_eq_true] at isForeign
      rw [text, Bounds.read_append_cons_of_foreign (Bounds.isNumeric_iff.mp numeric) isForeign,
        ← text] at braces
      unfold reading
      rw [braces]
      rfl
  | malformed numeric defective =>
      rw [Bounds.read_of_isDefective numeric defective] at braces
      unfold reading
      rw [braces]
      rfl
  | @inverted bounds denoted inverted =>
      have refused : repeatLast limits offset bounds template source =
          (.error (.invertedRange offset bounds.lower (upperBound limits bounds)), source) :=
        if_pos inverted
      rw [read_of_denoted denoted, refused]
  | @overLimit bounds denoted ordered exceeds =>
      have refused : repeatLast limits offset bounds template source =
          (.error (.repeatTooLarge offset (upperBound limits bounds) limits.repeatLimit), source) :=
        (if_neg (Nat.not_lt.mpr ordered)).trans (if_pos exceeds)
      rw [read_of_denoted denoted, refused]
  | dangling denoted allowed empty =>
      have last : template.last? = none := by
        simpa [Template.last?, Template.toList] using empty
      rw [read_of_denoted denoted, repeatLast_of_empty allowed last]
  | repeated denoted allowed slots chosen least greatest held copied =>
      have last := Template.last?_eq_some_iff.mpr ⟨_, slots⟩
      have found : repetitions limits offset _ source = (.ok _, _) :=
        repetitions_eq_ok_iff.mpr ⟨allowed, chosen, held⟩
      have same := copied.trans (Template.toList_replaceLast_of_eq slots _).symm
      rw [read_of_denoted denoted, repeatLast_of_last last, found, Template.toList_injective same]
      rfl
  | overCapacity denoted allowed slots chosen exceeds =>
      have last := Template.last?_eq_some_iff.mpr ⟨_, slots⟩
      rw [read_of_denoted denoted, repeatLast_of_last last,
        repetitions_of_overCapacity allowed chosen exceeds]
      rfl

/-! ## Braces behind a pattern -/

/-- Braces are decided completely and in a fixed order.  Behind a pattern that compiles and keeps no
opening brace, braces around a text without a closing one lead to an outcome, and leave a rest of
the source, exactly if that is the verdict on them; they add no warning.  Where memory holds what
the limit allows, nothing is drawn for braces that are refused. -/
theorem ofPattern_append_braces (limits : Limits) (before body : String) (source : σ)
    (template : Template) (compiled : (ofPattern limits before source).outcome = .ok template)
    (unbraced : ∀ warning ∈ (ofPattern limits before source).warnings,
      ¬ (warning.kind = .metacharacter ∧ warning.ch = '\x7b'))
    (unclosed : '\x7d' ∉ body.toList) :
    let alone := ofPattern limits before source
    let compilation := ofPattern limits (before ++ "\x7b" ++ body ++ "\x7d") source
    (∀ outcome rest, compilation.outcome = outcome ∧ compilation.source = rest ↔
      Verdict limits before.length body.toList template alone.source outcome rest) ∧
    compilation.warnings = alone.warnings ∧
    (limits.repeatLimit ≤ limits.capacity → ∀ fault, compilation.outcome = .error fault →
      compilation.source = alone.source) := by
  intro alone compilation
  have joined : before ++ "\x7b" ++ body ++ "\x7d" = before ++ ("\x7b" ++ body ++ "\x7d") := by
    simp only [String.append_assoc]
  have braces : ("\x7b" ++ body ++ "\x7d").toList = '\x7b' :: body.toList ++ ['\x7d'] := by
    simp
  have apart : KeptApart alone.warnings ("\x7b" ++ body ++ "\x7d").toList := .inl unbraced
  have reading := ofPattern_append_reading compiled apart
  rw [braces, ← joined] at reading
  have carriedOut {outcome : Except Fault Template} {rest : σ}
      (verdict : Verdict limits before.length body.toList template alone.source outcome rest) :
      compilation = ⟨outcome, alone.warnings, rest⟩ := by
    unfold compilation
    rw [reading, ofPieces_of_verdict verdict unclosed]
    exact congrArg (Compilation.mk outcome · rest) (List.append_nil _)
  obtain ⟨outcome, rest, verdict⟩ :=
    exists_verdict limits before.length body.toList template alone.source
  have compilationEq := carriedOut verdict
  refine ⟨?_, by rw [compilationEq], ?_⟩
  · intro otherOutcome otherRest
    constructor
    · rintro ⟨rfl, rfl⟩
      rwa [compilationEq]
    · intro otherVerdict
      rw [carriedOut otherVerdict]
      exact ⟨rfl, rfl⟩
  · intro reservable fault failed
    rw [compilationEq] at failed ⊢
    subst failed
    cases verdict with
    | overCapacity denoted allowed slots chosen exceeds =>
        have greatest := chooseCount_le_upper allowed.1 alone.source
        rw [chosen] at greatest
        have within := Nat.le_trans greatest (Nat.le_trans allowed.2 reservable)
        exact absurd within (Nat.not_le.mpr exceeds)
    | _ => rfl

/-- A text that has a foreign character behind too many numbers, and one that repeats the last of
two slots. -/
theorem ofPattern_foreign_and_repeated :
    let words : CyclicWords := ⟨0x80000000, [], []⟩
    let foreign := ofPattern {} ("a(" ++ "\x7b" ++ "9,1,x" ++ "\x7d") words
    let repeated := ofPattern {} ("a(" ++ "\x7b" ++ "00,3" ++ "\x7d") words
    (ofPattern {} "a(" words).outcome = .ok ⟨#[⟨.single 'a', 0⟩, ⟨.single '(', 1⟩]⟩ ∧
      (∀ warning ∈ (ofPattern {} "a(" words).warnings,
        ¬ (warning.kind = .metacharacter ∧ warning.ch = '\x7b')) ∧
      '\x7d' ∉ "9,1,x".toList ∧ '\x7d' ∉ "00,3".toList ∧
      (foreign.outcome = .error (.invalidRepeatBody 7 'x') ∧ foreign.source = words) ∧
      repeated.outcome = .ok ⟨#[⟨.single 'a', 0⟩, ⟨.single '(', 1⟩, ⟨.single '(', 1⟩]⟩ ∧
      repeated.source = words := by
  intro words foreign repeated
  have compiled : (ofPattern {} "a(" words).outcome =
      .ok ⟨#[⟨.single 'a', 0⟩, ⟨.single '(', 1⟩]⟩ := by decide +kernel
  have unbraced : ∀ warning ∈ (ofPattern {} "a(" words).warnings,
      ¬ (warning.kind = .metacharacter ∧ warning.ch = '\x7b') := by decide +kernel
  have foreignUnclosed : '\x7d' ∉ "9,1,x".toList := by decide
  have repeatedUnclosed : '\x7d' ∉ "00,3".toList := by decide
  refine ⟨compiled, unbraced, foreignUnclosed, repeatedUnclosed, ?_, ?_⟩
  · have law := ofPattern_append_braces {} "a(" "9,1,x" words _ compiled unbraced foreignUnclosed
    have text : "9,1,x".toList = "9,1,".toList ++ 'x' :: [] := by decide
    have numeric : Bounds.IsNumeric "9,1,".toList :=
      Bounds.isNumeric_iff.mpr (List.all_eq_true.mp (by decide +kernel))
    exact (law.1 _ _).mpr (.foreign text numeric (by decide))
  · have law := ofPattern_append_braces {} "a(" "00,3" words _ compiled unbraced repeatedUnclosed
    have denoted : Bounds.Denoted "00,3".toList ⟨0, some 3⟩ :=
      Bounds.read_eq_ok_iff.mp (by decide +kernel)
    have allowed : Allowed {} ⟨0, some 3⟩ := ⟨by decide, by decide⟩
    have chosen : chooseCount 0 3 words = (2, words) := by decide +kernel
    have slots : Template.toList ⟨#[⟨.single 'a', 0⟩, ⟨.single '(', 1⟩]⟩ =
        [⟨.single 'a', 0⟩] ++ [⟨.single '(', 1⟩] := rfl
    exact (law.1 _ _).mpr
      (.repeated denoted allowed slots chosen (by decide) (by decide) (by decide) rfl)

end Compilation

end PatternDraw
