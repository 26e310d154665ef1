import PatternDraw.Entropy.Cyclic
import PatternDraw.Proofs.Compiling.Denotation
import PatternDraw.Proofs.Compiling.Independence
import PatternDraw.Proofs.Reading.BracketText
import PatternDraw.Proofs.Reading.TopLevel

/-!
# What warnings tell about a pattern

A warning names a place in the pattern and a character that stands there, or behind a backslash
there.  Each kind of warning is read here as a statement about the text at that place.  The
warnings of a compilation are true in this sense, and no two of them are about the same place:
they are found from left to right.  A pattern that compiles has a warning about every mark of
other pattern languages at its top level.
-/

namespace PatternDraw

open Compilation

/-- The marks of other pattern languages, opening braces apart. -/
def foreignMarks : List Char :=
  ['$', '^', '(', ')', '|', ']', '\x7d']

/-- In front of the given text, the character is a mark of other pattern languages; an opening
brace is one unless a closing brace follows. -/
def IsForeignMark (ch : Char) (rest : List Char) : Prop :=
  ch ∈ foreignMarks ∨ ch = '\x7b' ∧ '\x7d' ∉ rest

/-- What a warning says about a pattern. -/
def Warning.IsTrueOf (pattern : List Char) : Warning → Prop
  | ⟨.metacharacter, ch, offset⟩ =>
      TopLevel pattern offset ∧
        ∃ rest, pattern.drop offset = ch :: rest ∧ IsForeignMark ch rest
  | ⟨.unknownEscape, ch, offset⟩ =>
      IsDue pattern offset ∧ (∃ rest, pattern.drop offset = '\\' :: ch :: rest) ∧
        ¬ ('0' ≤ ch ∧ ch ≤ '7') ∧ ch ∉ escapeLetters
  | ⟨.octalEscape, ch, offset⟩ =>
      IsDue pattern offset ∧ (∃ rest, pattern.drop offset = '\\' :: ch :: rest) ∧
        '0' ≤ ch ∧ ch ≤ '7'
  | ⟨.bracketLiteral, ch, offset⟩ =>
      InBracket pattern offset ∧ (∃ rest, pattern.drop offset = ch :: rest) ∧ ch ≠ ']' ∧
        ¬ (ch.isAlphanum ∨ ch = '_')
  | ⟨.reversedRange, ch, offset⟩ =>
      InBracket pattern offset ∧ ch ≠ ']' ∧
        ∃ dash rest, offset = dash + 1 ∧ InBracket pattern dash ∧
          pattern.drop dash = '-' :: ch :: rest

/-! ## Warnings about brackets -/

theorem drop_succ_of_drop_eq_cons {pattern rest : List Char} {offset : Nat} {ch : Char}
    (spelled : pattern.drop offset = ch :: rest) : pattern.drop (offset + 1) = rest := by
  rw [← List.tail_drop, spelled, List.tail_cons]

/-- The warnings about a text within a bracket are true. -/
theorem Bracket.Expands.isTrueOf {offset : Nat} {listed text members : List Char}
    {warnings : List Warning} (expands : Expands offset listed text members warnings)
    {pattern behind : List Char} (spelled : pattern.drop offset = text ++ behind)
    (unclosed : ']' ∉ text)
    (inside : ∀ place, offset ≤ place → place < offset + text.length → InBracket pattern place) :
    ∀ warning ∈ warnings, warning.IsTrueOf pattern := by
  induction expands with
  | done => exact fun warning member => absurd member List.not_mem_nil
  | @literal offset _ rest _ ch _ _ _ ih =>
      rw [List.length_cons] at inside
      intro warning member
      rcases List.mem_append.mp member with here | onward
      · split at here
        · cases here
        · rename_i notWord
          rw [List.mem_singleton.mp here]
          exact ⟨inside offset (Nat.le_refl _) (by omega), ⟨_, spelled⟩,
            fun closing => unclosed (closing ▸ List.mem_cons_self), notWord⟩
      · have spelledBehind := drop_succ_of_drop_eq_cons spelled
        exact ih spelledBehind (fun closing => unclosed (List.mem_cons_of_mem _ closing))
          (fun place starts ends => inside place (by omega) (by omega)) warning onward
  | @range offset _ rest _ _ _ last _ _ _ ih =>
      rw [List.length_cons, List.length_cons] at inside
      intro warning member
      rcases List.mem_append.mp member with here | onward
      · split at here
        · cases here
        · rw [List.mem_singleton.mp here]
          refine ⟨inside (offset + 1) (by omega) (by omega), ?_, offset, _, rfl,
            inside offset (Nat.le_refl _) (by omega), spelled⟩
          rintro rfl
          exact unclosed (by simp)
      · have spelledBehind := drop_succ_of_drop_eq_cons (drop_succ_of_drop_eq_cons spelled)
        refine ih spelledBehind ?_ (fun place starts ends => inside place (by omega) (by omega))
          warning onward
        exact fun closing => unclosed (List.mem_cons_of_mem _ (List.mem_cons_of_mem _ closing))

/-- The warnings about a bracket, which may be unclosed, are true. -/
theorem Bracket.isTrueOf_of_mem_warnings {pattern body behind : List Char} {start : Nat}
    (due : IsDue pattern start) (spelled : pattern.drop start = '[' :: body ++ behind)
    (unclosed : ']' ∉ body) :
    ∀ warning ∈ warnings (start + 1) body, warning.IsTrueOf pattern := by
  have spelledBehind := drop_succ_of_drop_eq_cons spelled
  refine (expands_alphabet (start + 1) body).isTrueOf spelledBehind unclosed ?_
  intro place starts ends
  exact ⟨_, enclosedBy_of_le due spelled unclosed starts (by omega)⟩

/-! ## Warnings about constructs -/

theorem mem_foreignMarks_of_isMetacharacter {ch : Char} (mark : isMetacharacter ch = true)
    (plain : ch ∉ openers) : ch ∈ foreignMarks := by
  unfold isMetacharacter at mark
  split at mark <;> simp_all [foreignMarks, openers]

theorem isMetacharacter_of_isForeignMark {ch : Char} {rest : List Char}
    (mark : IsForeignMark ch rest) : isMetacharacter ch = true := by
  have all : foreignMarks.all isMetacharacter = true := by decide
  rcases mark with listed | ⟨rfl, _⟩
  · exact List.all_eq_true.mp all ch listed
  · rfl

theorem not_mem_escapeLetters {ch : Char} (other : ch ≠ 'x')
    (unused : ¬ (Shorthand.ofChar? ch).isSome) : ch ∉ escapeLetters := by
  have all : escapeLetters.tail.all (fun ch => (Shorthand.ofChar? ch).isSome) = true := by decide
  intro member
  have headOrTail : ch ∈ 'x' :: escapeLetters.tail := member
  rcases List.mem_cons.mp headOrTail with hexadecimal | shorthand
  · exact other hexadecimal
  · exact unused (List.all_eq_true.mp all ch shorthand)

/-- The warnings about an atom are true where it stands. -/
theorem Atom.isTrueOf_of_mem_warnings {part : Atom} {pattern rest : List Char} {offset : Nat}
    (due : IsDue pattern offset) (spelled : pattern.drop offset = part.text ++ rest)
    (stands : part.StandsBefore rest) :
    ∀ warning ∈ part.warnings offset, warning.IsTrueOf pattern := by
  intro warning member
  cases part with
  | literal ch =>
      simp only [warnings] at member
      split at member
      · rename_i mark
        rw [List.mem_singleton.mp member]
        refine ⟨due.topLevel, rest, spelled, ?_⟩
        rcases stands with plain | brace
        · exact .inl (mem_foreignMarks_of_isMetacharacter mark plain)
        · exact .inr brace
      · cases member
  | dot => cases member
  | hexEscape high low => cases member
  | escape ch =>
      have octal : isOctalDigit ch = true ↔ '0' ≤ ch ∧ ch ≤ '7' := by simp [isOctalDigit]
      simp only [warnings, octal] at member
      split at member
      · rename_i digit
        rw [List.mem_singleton.mp member]
        exact ⟨due, ⟨rest, spelled⟩, digit⟩
      · rename_i noDigit
        split at member
        · cases member
        · rename_i unused
          rw [List.mem_singleton.mp member]
          exact ⟨due, ⟨rest, spelled⟩, noDigit, not_mem_escapeLetters stands unused⟩
  | bracket body =>
      have opened : pattern.drop offset = '[' :: body ++ (']' :: rest) := by
        simpa [text] using spelled
      exact Bracket.isTrueOf_of_mem_warnings due opened stands.2 warning member

/-- The warnings about the constructs at the start of a pattern are true. -/
theorem SplitsUpTo.isTrueOf_of_mem_allWarnings {behind pattern : List Char}
    {constructs : List Construct} (splits : SplitsUpTo behind pattern constructs) :
    ∀ warning ∈ allWarnings (place 0 constructs), warning.IsTrueOf pattern := by
  intro warning member
  obtain ⟨⟨offset, part | part⟩, placed, about⟩ := List.mem_flatMap.mp member
  · obtain ⟨due, rest, spelled, stands⟩ := splits.stands_of_mem_place placed
    exact Atom.isTrueOf_of_mem_warnings due spelled stands warning about
  · cases about

/-! ## The order of warnings -/

/-- The warnings are about different places, from left to right. -/
def InOrder (warnings : List Warning) : Prop :=
  (warnings.map Warning.offset).Pairwise (· < ·)

/-- Warnings before a place and warnings from there on are in order if both of them are. -/
theorem InOrder.append {before behind : List Warning} (first : InOrder before)
    (second : InOrder behind) (middle : Nat)
    (ends : ∀ warning ∈ before, warning.offset < middle)
    (starts : ∀ warning ∈ behind, middle ≤ warning.offset) : InOrder (before ++ behind) := by
  rw [InOrder, List.map_append, List.pairwise_append]
  refine ⟨first, second, ?_⟩
  intro offset member other otherMember
  obtain ⟨warning, found, rfl⟩ := List.mem_map.mp member
  obtain ⟨otherWarning, otherFound, rfl⟩ := List.mem_map.mp otherMember
  exact Nat.lt_of_lt_of_le (ends warning found) (starts otherWarning otherFound)

theorem InOrder.of_prefix {warnings all : List Warning} (inOrder : InOrder all)
    (first : warnings <+: all) : InOrder warnings :=
  inOrder.sublist (first.sublist.map Warning.offset)

theorem BracketItem.inOrder (start : Char) (offset : Nat) (item : BracketItem) :
    InOrder (item.warnings start offset) := by
  cases item <;> simp only [warnings] <;> split <;> simp [InOrder]

theorem BracketItem.allWarnings_inOrder (start : Char) (offset : Nat) (items : List BracketItem) :
    InOrder (allWarnings start offset items) := by
  induction items generalizing start offset with
  | nil => exact .nil
  | cons item rest ih =>
      exact (inOrder start offset item).append (ih _ _) (offset + item.width)
        (fun _ member => (warnings_within member).2) (fun _ member => (allWarnings_within member).1)

theorem Bracket.warnings_inOrder (offset : Nat) (body : List Char) :
    InOrder (warnings offset body) := by
  cases body with
  | nil => exact .nil
  | cons ch rest =>
      exact (BracketItem.inOrder ch offset (.single ch)).append
        (BracketItem.allWarnings_inOrder _ _ _) (offset + 1)
        (fun _ member => (BracketItem.warnings_within member).2)
        (fun _ member => (BracketItem.allWarnings_within member).1)

theorem Piece.inOrder (piece : Piece) : InOrder piece.warnings := by
  rcases piece with ⟨offset, part | part⟩
  · cases part with
    | literal ch =>
        change InOrder (if isMetacharacter ch then _ else _)
        split <;> simp [InOrder]
    | dot => exact .nil
    | hexEscape high low => exact .nil
    | escape ch =>
        change InOrder (if isOctalDigit ch then _ else if _ then _ else _)
        split
        · simp [InOrder]
        · split <;> simp [InOrder]
    | bracket body => exact Bracket.warnings_inOrder (offset + 1) body
  · exact .nil

theorem allWarnings_within {start : Nat} {constructs : List Construct} {warning : Warning}
    (member : warning ∈ allWarnings (place start constructs)) :
    start ≤ warning.offset ∧ warning.offset < start + (textOf constructs).length := by
  obtain ⟨piece, placed, about⟩ := List.mem_flatMap.mp member
  have piecePlace := within_of_mem_place placed
  have within := Piece.warnings_within about
  omega

/-- The warnings about constructs that follow each other are in order. -/
theorem allWarnings_inOrder (start : Nat) (constructs : List Construct) :
    InOrder (allWarnings (place start constructs)) := by
  induction constructs generalizing start with
  | nil => exact .nil
  | cons construct rest ih =>
      exact (Piece.inOrder ⟨start, construct⟩).append (ih _) (start + construct.text.length)
        (fun _ member => (Piece.warnings_within member).2)
        (fun _ member => (allWarnings_within member).1)

/-! ## All warnings of a reading -/

/-- Where reading stops, the only warnings are those about a bracket that does not close. -/
theorem Scan.Obstructs.warnings_eq {start : Nat} {text : List Char} {halt : Halt}
    (obstructs : Obstructs start text halt) :
    halt.warnings = [] ∨ ∃ rest, text = '[' :: rest ∧ ']' ∉ rest ∧
      halt.warnings = Bracket.warnings (start + 1) rest := by
  cases obstructs with
  | openBracket unclosed => exact .inr ⟨_, rfl, unclosed, rfl⟩
  | _ => exact .inl rfl

/-- The warnings of a reading are in order, and all of them are true. -/
theorem Scan.Found.warnings_located {pattern : List Char} {scan : Scan}
    (found : Found 0 pattern scan) :
    InOrder (allWarnings scan.pieces ++ (scan.halt.map Halt.warnings).getD []) ∧
      ∀ warning ∈ allWarnings scan.pieces ++ (scan.halt.map Halt.warnings).getD [],
        warning.IsTrueOf pattern := by
  cases found with
  | complete splits =>
      simp only [Option.map_none, Option.getD_none, List.append_nil]
      exact ⟨allWarnings_inOrder 0 _, splits.isTrueOf_of_mem_allWarnings⟩
  | @obstructed constructs behind halt splits obstructs =>
      rw [Nat.zero_add] at obstructs
      simp only [Option.map_some, Option.getD_some]
      rcases obstructs.warnings_eq with silent | ⟨rest, rfl, unclosed, warningsEq⟩
      · rw [silent, List.append_nil]
        exact ⟨allWarnings_inOrder 0 _, splits.isTrueOf_of_mem_allWarnings⟩
      · rw [warningsEq]
        constructor
        · refine (allWarnings_inOrder 0 _).append (Bracket.warnings_inOrder _ _)
            (textOf constructs).length ?_ ?_
          · intro warning member
            have within := allWarnings_within member
            omega
          · intro warning member
            have within := Bracket.warnings_within member
            omega
        · intro warning member
          rcases List.mem_append.mp member with before | inside
          · exact splits.isTrueOf_of_mem_allWarnings warning before
          · have due : IsDue pattern (textOf constructs).length := ⟨constructs, splits.reaches⟩
            have opened : pattern.drop (textOf constructs).length = '[' :: rest ++ [] := by
              rw [splits.drop_eq, List.append_nil]
            exact Bracket.isTrueOf_of_mem_warnings due opened unclosed warning inside

/-- A construct that starts with a mark of other pattern languages is this mark. -/
theorem eq_literal_of_isForeignMark {construct : Construct} {behind rest : List Char} {ch : Char}
    (spelled : construct.text ++ behind = ch :: rest) (mark : IsForeignMark ch rest) :
    construct = .atom (.literal ch) := by
  rcases construct with (literal | _ | _ | _ | _) | (_ | _ | _ | ⟨body, bounds⟩)
  case atom.literal => rw [(List.cons.inj spelled).1]
  case quantifier.braces =>
    obtain ⟨rfl, rfl⟩ := List.cons.inj spelled
    rcases mark with listed | ⟨_, unclosed⟩
    · exact absurd listed (by decide)
    · exact absurd (by simp) unclosed
  all_goals
    obtain ⟨rfl, _⟩ := List.cons.inj spelled
    rcases mark with listed | ⟨brace, _⟩
    · exact absurd listed (by decide)
    · cases brace

namespace Compilation

variable {σ : Type} [EntropySource σ]

/-- The warnings of a compilation, also of one that fails, are about different places, from left to
right, and each of them is true: an escape that is unknown or octal starts at its place, and in
every other case the character that it names stands there, within a bracket or at the top level.
If the pattern compiles, there is a warning about every mark of other pattern languages at its
top level. -/
theorem ofPattern_warnings_located (limits : Limits) (pattern : String) (source : σ) :
    ((ofPattern limits pattern source).warnings.map Warning.offset).Pairwise (· < ·) ∧
    (∀ warning ∈ (ofPattern limits pattern source).warnings, warning.IsTrueOf pattern.toList) ∧
    ∀ template, (ofPattern limits pattern source).outcome = .ok template →
      ∀ offset ch rest, TopLevel pattern.toList offset →
        pattern.toList.drop offset = ch :: rest → IsForeignMark ch rest →
        ⟨.metacharacter, ch, offset⟩ ∈ (ofPattern limits pattern source).warnings := by
  have first := (ending_ofPattern limits pattern source).warnings_isPrefixOf
  obtain ⟨inOrder, areTrue⟩ := (Scan.found_ofPattern pattern.toList).warnings_located
  refine ⟨inOrder.of_prefix first, fun warning member => areTrue warning (first.subset member), ?_⟩
  intro template compiled offset ch rest top here mark
  obtain ⟨constructs, splits, _, _⟩ := exists_of_ofPattern_eq_ok compiled
  have within : offset < pattern.toList.length := by
    by_contra beyond
    rw [List.drop_eq_nil_of_le (Nat.le_of_not_lt beyond)] at here
    cases here
  obtain ⟨construct, behind, placed, spelled, _⟩ := splits.exists_construct_of_topLevel top within
  obtain rfl := eq_literal_of_isForeignMark (spelled.symm.trans here) mark
  rw [warnings_eq_of_ok compiled, Scan.ofPattern_of_splits splits]
  refine List.mem_flatMap.mpr ⟨_, placed, ?_⟩
  have warned := isMetacharacter_of_isForeignMark mark
  simp [Piece.warnings, Construct.warnings, Atom.warnings, warned]

/-- A pattern with a warning of every kind, of which that about its first character had to be there,
and a bracket that does not close. -/
theorem ofPattern_warnings_of_every_kind :
    let words : CyclicWords := ⟨0, [], []⟩
    (ofPattern {} "([z-a!]\\q\\7" words).warnings =
      [⟨.metacharacter, '(', 0⟩, ⟨.reversedRange, 'a', 4⟩, ⟨.bracketLiteral, '!', 5⟩,
        ⟨.unknownEscape, 'q', 7⟩, ⟨.octalEscape, '7', 9⟩] ∧
    Warning.IsTrueOf "([z-a!]\\q\\7".toList ⟨.reversedRange, 'a', 4⟩ ∧
    TopLevel "([z-a!]\\q\\7".toList 0 ∧
    ⟨.metacharacter, '(', 0⟩ ∈ (ofPattern {} "([z-a!]\\q\\7" words).warnings ∧
    (ofPattern {} "a[!" words).outcome = .error (.unmatchedBracket 1) ∧
    Warning.IsTrueOf "a[!".toList ⟨.bracketLiteral, '!', 2⟩ := by
  intro words
  have found : (ofPattern {} "([z-a!]\\q\\7" words).warnings =
      [⟨.metacharacter, '(', 0⟩, ⟨.reversedRange, 'a', 4⟩, ⟨.bracketLiteral, '!', 5⟩,
        ⟨.unknownEscape, 'q', 7⟩, ⟨.octalEscape, '7', 9⟩] := by decide +kernel
  have compiled : ∃ template, (ofPattern {} "([z-a!]\\q\\7" words).outcome = .ok template :=
    ⟨⟨#[⟨.single '(', 0⟩, ⟨⟨#['z', '!']⟩, 1⟩, ⟨.single 'q', 7⟩, ⟨.single '7', 9⟩]⟩,
      by decide +kernel⟩
  have unclosed : (ofPattern {} "a[!" words).warnings = [⟨.bracketLiteral, '!', 2⟩] := by
    decide +kernel
  have due : IsDue "([z-a!]\\q\\7".toList 0 := ⟨[], .nil, rfl⟩
  obtain ⟨_, areTrue, reported⟩ := ofPattern_warnings_located {} "([z-a!]\\q\\7" words
  obtain ⟨_, trueOfUnclosed, _⟩ := ofPattern_warnings_located {} "a[!" words
  obtain ⟨template, isCompiled⟩ := compiled
  refine ⟨found, areTrue _ (by simp [found]), due.topLevel, ?_, by decide +kernel,
    trueOfUnclosed _ (by simp [unclosed])⟩
  exact reported template isCompiled 0 '(' _ due.topLevel rfl (.inl (by decide))

end Compilation

end PatternDraw
