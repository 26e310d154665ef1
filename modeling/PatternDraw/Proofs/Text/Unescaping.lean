import PatternDraw.Alphabet.Basic
import PatternDraw.Pattern.Construct

/-!
# Escaped text read back

Escaped characters follow each other without anything between them, and a character may be a
backslash, a brace or a digit itself.  Their escapes are told apart all the same: a reader that
knows the marks and the code points in hexadecimal reads an escape in front of any text as its
character.  It accepts exactly the rows of escapes, whichever of the characters were escaped.
The text of an alphabet therefore belongs to one alphabet only.
-/

namespace PatternDraw.Text

/-! ## Marks and code points -/

/-- The character for which a mark stands behind a backslash. -/
def ofMark? : Char → Option Char
  | '0' => some '\x00'
  | 't' => some '\t'
  | 'r' => some '\r'
  | 'n' => some '\n'
  | '\\' => some '\\'
  | '\'' => some '\''
  | '"' => some '"'
  | _ => none

theorem ofMark?_of_shortEscape? {ch mark : Char} (short : shortEscape? ch = some mark) :
    ofMark? mark = some ch := by
  unfold shortEscape? at short
  split at short <;> cases short <;> rfl

/-- The value of hexadecimal digits, the most significant first. -/
def hexValue (digits : List Char) : Nat :=
  digits.foldl (fun total digit => 16 * total + (hexDigit? digit).getD 0) 0

theorem hexValue_concat (digits : List Char) {value : Nat} (digit : value < 16) :
    hexValue (digits ++ [value.digitChar]) = 16 * hexValue digits + value := by
  simp [hexValue, hexDigit?_digitChar digit]

/-- What holds of one digit, and is kept by a further digit, holds of all numerals. -/
theorem toDigits_induction {motive : Nat → List Char → Prop}
    (single : ∀ {value : Nat}, value < 16 → motive value [value.digitChar])
    (further : ∀ {code value : Nat} {digits : List Char}, value < 16 → motive code digits →
      motive (16 * code + value) (digits ++ [value.digitChar]))
    (code : Nat) : motive code (Nat.toDigits 16 code) := by
  induction code using Nat.strongRecOn with
  | ind code ih =>
      by_cases short : code < 16
      · rw [Nat.toDigits_of_lt_base short]
        exact single short
      · have several : 16 ≤ code := Nat.le_of_not_lt short
        have last : code % 16 < 16 := Nat.mod_lt code (by decide)
        have fewer : code / 16 < code := Nat.div_lt_self (by omega) (by decide)
        have extended := further last (ih _ fewer)
        rwa [Nat.div_add_mod, ← Nat.toDigits_of_base_le (by decide) several] at extended

theorem hexValue_toDigits (code : Nat) : hexValue (Nat.toDigits 16 code) = code := by
  refine toDigits_induction (motive := fun code digits => hexValue digits = code) ?_ ?_ code
  · intro value digit
    simpa [hexValue] using hexValue_concat [] digit
  · intro code value digits digit spelled
    rw [hexValue_concat digits digit, spelled]

/-- A code point in hexadecimal does not close the braces around it. -/
theorem brace_not_mem_toDigits (code : Nat) : '\x7d' ∉ Nat.toDigits 16 code := by
  have other (value : Nat) : '\x7d' ≠ value.digitChar := Ne.symm (Nat.digitChar_ne _ (by decide))
  refine toDigits_induction (motive := fun _ digits => '\x7d' ∉ digits) ?_ ?_ code
  · intro value _
    rw [List.mem_singleton]
    exact other value
  · intro _ value digits _ inside member
    rcases List.mem_append.mp member with front | last
    · exact inside front
    · exact other value (List.mem_singleton.mp last)

/-- The character whose code point is written in lower-case hexadecimal without padding. -/
def ofCodePoint? (digits : List Char) : Option Char :=
  (scalar? (hexValue digits)).filter fun ch => decide (digits = Nat.toDigits 16 ch.toNat)

theorem ofCodePoint?_eq_some_iff {digits : List Char} {ch : Char} :
    ofCodePoint? digits = some ch ↔ digits = Nat.toDigits 16 ch.toNat := by
  rw [ofCodePoint?, Option.filter_eq_some_iff, scalar?_eq_some_iff, decide_eq_true_iff]
  constructor
  · rintro ⟨_, spelled⟩
    exact spelled
  · intro spelled
    refine ⟨?_, spelled⟩
    rw [spelled, hexValue_toDigits]

/-! ## Escapes -/

/-- The ways to write a character: as itself unless it is the backslash, by its mark, or by
its code point. -/
inductive EscapedAs (ch : Char) : List Char → Prop
  | itself (plain : ch ≠ '\\') : EscapedAs ch [ch]
  | marked {mark : Char} (known : ofMark? mark = some ch) : EscapedAs ch ['\\', mark]
  | byCodePoint : EscapedAs ch (codePointEscape ch)

/-- The texts in which characters are written one after the other. -/
inductive EscapedRow : List Char → List Char → Prop
  | nil : EscapedRow [] []
  | cons {ch : Char} {members written text : List Char} (escaped : EscapedAs ch written)
      (row : EscapedRow members text) : EscapedRow (ch :: members) (written ++ text)

theorem escapedRow_flatMap {escape : Char → List Char} (escapes : ∀ ch, EscapedAs ch (escape ch))
    (members : List Char) : EscapedRow members (members.flatMap escape) := by
  induction members with
  | nil => exact .nil
  | cons ch members ih =>
      rw [List.flatMap_cons]
      exact .cons (escapes ch) ih

theorem escapedAs_escapeInText (ch : Char) : EscapedAs ch (escapeInText ch) := by
  unfold escapeInText
  cases short : shortEscape? ch with
  | some mark => exact .marked (ofMark?_of_shortEscape? short)
  | none =>
      have plain : ch ≠ '\\' := by
        rintro rfl
        cases short
      cases standsAsItself ch with
      | true => exact .itself plain
      | false => exact .byCodePoint

theorem escapedAs_escapeAlone (ch : Char) : EscapedAs ch (escapeAlone ch) := by
  unfold escapeAlone
  split
  · rename_i apostrophe
    subst apostrophe
    exact .marked rfl
  · exact escapedAs_escapeInText ch

/-! ## Reading -/

/-- Where a reader of escaped text is, with the digits that it has passed. -/
inductive EscapeState where
  /-- Between two characters. -/
  | outside
  /-- Behind a backslash. -/
  | behindBackslash
  /-- Behind a backslash and the letter `u`. -/
  | behindLetter
  /-- Within the braces of a code point. -/
  | withinBraces (digits : List Char)

/-- The part of an escape that a reader has passed. -/
def EscapeState.passed : EscapeState → List Char
  | outside => []
  | behindBackslash => ['\\']
  | behindLetter => ['\\', 'u']
  | withinBraces digits => '\\' :: 'u' :: '\x7b' :: digits

/-- Read the rest of an escaped text. -/
def unescapeFrom : EscapeState → List Char → Option (List Char)
  | .outside, [] => some []
  | .outside, ch :: rest =>
      if ch = '\\' then unescapeFrom .behindBackslash rest
      else (unescapeFrom .outside rest).map (ch :: ·)
  | .behindBackslash, ch :: rest =>
      if ch = 'u' then unescapeFrom .behindLetter rest
      else
        match ofMark? ch with
        | some known => (unescapeFrom .outside rest).map (known :: ·)
        | none => none
  | .behindLetter, ch :: rest =>
      if ch = '\x7b' then unescapeFrom (.withinBraces []) rest else none
  | .withinBraces digits, ch :: rest =>
      if ch = '\x7d' then
        match ofCodePoint? digits with
        | some known => (unescapeFrom .outside rest).map (known :: ·)
        | none => none
      else unescapeFrom (.withinBraces (digits ++ [ch])) rest
  | _, [] => none

/-- The characters of an escaped text. -/
def unescape (text : List Char) : Option (List Char) :=
  unescapeFrom .outside text

theorem unescapeFrom_digits {digits : List Char} (inside : '\x7d' ∉ digits)
    (passed rest : List Char) :
    unescapeFrom (.withinBraces passed) (digits ++ rest) =
      unescapeFrom (.withinBraces (passed ++ digits)) rest := by
  induction digits generalizing passed with
  | nil => simp
  | cons ch digits ih =>
      obtain ⟨other, further⟩ := List.ne_and_not_mem_of_not_mem_cons inside
      rw [List.cons_append, unescapeFrom, if_neg (Ne.symm other), ih further]
      simp

/-- An escape in front of any text is read as its character. -/
theorem unescape_append {ch : Char} {written : List Char} (escaped : EscapedAs ch written)
    (rest : List Char) : unescape (written ++ rest) = (unescape rest).map (ch :: ·) := by
  cases escaped with
  | itself plain =>
      change unescapeFrom .outside (ch :: rest) = _
      rw [unescapeFrom, if_neg plain]
      rfl
  | @marked mark known =>
      have notLetter : mark ≠ 'u' := by
        rintro rfl
        cases known
      change unescapeFrom .behindBackslash (mark :: rest) = _
      rw [unescapeFrom, if_neg notLetter, known]
      rfl
  | byCodePoint =>
      have closed : codePointEscape ch ++ rest =
          '\\' :: 'u' :: '\x7b' :: (Nat.toDigits 16 ch.toNat ++ '\x7d' :: rest) := by
        simp [codePointEscape]
      have known : ofCodePoint? ([] ++ Nat.toDigits 16 ch.toNat) = some ch :=
        ofCodePoint?_eq_some_iff.mpr rfl
      rw [closed]
      change unescapeFrom (.withinBraces []) (Nat.toDigits 16 ch.toNat ++ '\x7d' :: rest) = _
      rw [unescapeFrom_digits (brace_not_mem_toDigits _), unescapeFrom, if_pos rfl, known]
      rfl

/-- A row of escapes is read as the characters that it shows. -/
theorem unescape_of_escapedRow {members text : List Char} (row : EscapedRow members text) :
    unescape text = some members := by
  induction row with
  | nil => rfl
  | cons escaped _ ih => rw [unescape_append escaped, ih, Option.map_some]

/-- What is read, together with the part that was passed, is a row of escapes. -/
theorem escapedRow_of_unescapeFrom {state : EscapeState} {text members : List Char}
    (read : unescapeFrom state text = some members) :
    EscapedRow members (state.passed ++ text) := by
  -- An escape ends at a plain character, at a mark or at the closing brace: cases 3, 5 and 9.
  fun_induction unescapeFrom state text generalizing members with
  | case1 =>
      cases read
      exact .nil
  | case2 rest ih => exact ih read
  | case3 ch rest plain ih =>
      obtain ⟨others, readRest, rfl⟩ := Option.map_eq_some_iff.mp read
      change EscapedRow (ch :: others) ([ch] ++ rest)
      exact .cons (.itself plain) (ih readRest)
  | case4 rest ih => exact ih read
  | case5 mark rest _ known found ih =>
      obtain ⟨others, readRest, rfl⟩ := Option.map_eq_some_iff.mp read
      change EscapedRow (known :: others) (['\\', mark] ++ rest)
      exact .cons (.marked found) (ih readRest)
  | case6 => cases read
  | case7 rest ih => exact ih read
  | case8 => cases read
  | case9 digits rest known found ih =>
      obtain ⟨others, readRest, rfl⟩ := Option.map_eq_some_iff.mp read
      have escaped : EscapedAs known (codePointEscape known) := .byCodePoint
      have row := EscapedRow.cons escaped (ih readRest)
      rw [ofCodePoint?_eq_some_iff] at found
      simpa [EscapeState.passed, codePointEscape, found] using row
  | case10 => cases read
  | case11 digits ch rest _ ih => simpa [EscapeState.passed] using ih read
  | case12 => cases read

/-- A text is read as some characters exactly if it is a row of escapes of them. -/
theorem unescape_eq_some_iff {text members : List Char} :
    unescape text = some members ↔ EscapedRow members text := by
  constructor
  · intro read
    exact escapedRow_of_unescapeFrom read
  · intro row
    exact unescape_of_escapedRow row

example : unescape "]\\\\n\\u\x7b301\x7d".toList = some [']', '\\', 'n', '\u0301'] := by
  decide

/-- A text is a row of escapes of at most one list of characters. -/
theorem EscapedRow.unique {members others text : List Char} (row : EscapedRow members text)
    (other : EscapedRow others text) : members = others := by
  have read := unescape_of_escapedRow row
  rw [unescape_of_escapedRow other] at read
  exact (Option.some.inj read).symm

/-- Escaped texts are equal only if their characters are, whichever of them were escaped. -/
theorem flatMap_escape_eq_iff {escape : Char → List Char}
    (escapes : ∀ ch, EscapedAs ch (escape ch)) {first second : List Char} :
    first.flatMap escape = second.flatMap escape ↔ first = second := by
  constructor
  · intro same
    have row := escapedRow_flatMap escapes first
    rw [same] at row
    exact row.unique (escapedRow_flatMap escapes second)
  · rintro rfl
    rfl

end PatternDraw.Text

namespace PatternDraw.Alphabet

open Text

/-! ## The text of an alphabet -/

theorem toList_render (alphabet : Alphabet) :
    alphabet.render.toList = '[' :: alphabet.toList.flatMap escapeAlone ++ [']'] :=
  String.toList_ofList

theorem toList_inj {first second : Alphabet} : first.toList = second.toList ↔ first = second :=
  ⟨toList_injective, congrArg toList⟩

/-- The text of an alphabet belongs to no other alphabet, and the members are read back from
what stands between the outer brackets.  The texts that are read as these members are the rows
of their escapes, so it does not matter which characters stand as themselves. -/
theorem render_unambiguous (first second : Alphabet) :
    (first.render = second.render ↔ first = second) ∧
      (∃ inner, first.render.toList = '[' :: inner ++ [']'] ∧
        unescape inner = some first.toList) ∧
      ∀ inner, unescape inner = some first.toList ↔ EscapedRow first.toList inner := by
  have row := escapedRow_flatMap escapedAs_escapeAlone first.toList
  refine ⟨?_, ⟨_, toList_render first, unescape_of_escapedRow row⟩, ?_⟩
  · calc first.render = second.render
        ↔ first.render.toList = second.render.toList := String.toList_inj.symm
      _ ↔ first.toList.flatMap escapeAlone = second.toList.flatMap escapeAlone := by
          rw [toList_render, toList_render, List.append_cancel_right_eq, List.cons.injEq,
            and_iff_right rfl]
      _ ↔ first.toList = second.toList := flatMap_escape_eq_iff escapedAs_escapeAlone
      _ ↔ first = second := toList_inj
  · intro inner
    exact unescape_eq_some_iff

end PatternDraw.Alphabet
