import PatternDraw.Pattern.Scan
import PatternDraw.Proofs.Reading.Grammar

/-!
# Texts that start with no construct

A text starts with a construct, or it is obstructed: an escape is cut short or misspelled, a
bracket is empty or does not close, or the text between braces denotes no bounds.  Every
obstruction determines the fault that it is reported as, with the place of the fault.
-/

namespace PatternDraw.Scan

/-- The text starts with a construct that stands before the rest of it. -/
def StartsWithConstruct (text : List Char) : Prop :=
  ∃ (construct : Construct) (behind : List Char),
    text = construct.text ++ behind ∧ construct.StandsBefore behind

/-- The text at `start` begins with something unfinished or misspelled, which is reported by the
given warnings and fault. -/
inductive Obstructs (start : Nat) : List Char → Halt → Prop
  | escape {behind : List Char}
      (short : behind = [] ∨ behind = ['x'] ∨ ∃ ch, behind = ['x', ch]) :
      Obstructs start ('\\' :: behind) ⟨[], .unterminatedEscape start⟩
  | hexEscape {high low : Char} {rest : List Char}
      (misspelled : ¬ ((hexDigit? high).isSome ∧ (hexDigit? low).isSome)) :
      Obstructs start ('\\' :: 'x' :: high :: low :: rest)
        ⟨[], .invalidHexEscape start (String.ofList [high, low])⟩
  | openBracket {rest : List Char} (unclosed : ']' ∉ rest) :
      Obstructs start ('[' :: rest) ⟨Bracket.warnings (start + 1) rest, .unmatchedBracket start⟩
  | emptyBracket {rest : List Char} :
      Obstructs start ('[' :: ']' :: rest) ⟨[], .emptyBracket start⟩
  | foreignBody {digits more rest : List Char} {ch : Char}
      (allowed : ∀ digit ∈ digits, Bounds.isBodyChar digit = true)
      (foreign : Bounds.isBodyChar ch = false) (unclosed : '\x7d' ∉ digits ++ ch :: more) :
      Obstructs start ('\x7b' :: (digits ++ ch :: more) ++ '\x7d' :: rest)
        ⟨[], .invalidRepeatBody (start + 1 + digits.length) ch⟩
  | meaninglessBody {body rest : List Char}
      (allowed : ∀ ch ∈ body, Bounds.isBodyChar ch = true)
      (meaningless : ∀ bounds, ¬ Bounds.Denoted body bounds) :
      Obstructs start ('\x7b' :: body ++ '\x7d' :: rest)
        ⟨[], .malformedRange start (String.ofList body)⟩

/-- Wherever the text stands, something at its start is unfinished or misspelled. -/
def IsObstructed (text : List Char) : Prop :=
  ∀ start, ∃ halt, Obstructs start text halt

/-! ## Constructs and obstructions -/

private theorem escape_or_obstructed (rest : List Char) :
    StartsWithConstruct ('\\' :: rest) ∨ IsObstructed ('\\' :: rest) := by
  match rest with
  | [] => exact .inr fun _ => ⟨_, .escape (.inl rfl)⟩
  | ch :: rest =>
      by_cases hexadecimal : ch = 'x'
      · subst hexadecimal
        match rest with
        | [] => exact .inr fun _ => ⟨_, .escape (.inr (.inl rfl))⟩
        | [_] => exact .inr fun _ => ⟨_, .escape (.inr (.inr ⟨_, rfl⟩))⟩
        | high :: low :: rest =>
            by_cases digits : (hexDigit? high).isSome ∧ (hexDigit? low).isSome
            · exact .inl ⟨.atom (.hexEscape high low), rest, rfl, digits⟩
            · exact .inr fun _ => ⟨_, .hexEscape digits⟩
      · exact .inl ⟨.atom (.escape ch), rest, rfl, hexadecimal⟩

private theorem bracket_or_obstructed (rest : List Char) :
    StartsWithConstruct ('[' :: rest) ∨ IsObstructed ('[' :: rest) := by
  by_cases closed : ']' ∈ rest
  · obtain ⟨body, behind, rfl, unclosed⟩ := List.eq_append_cons_of_mem closed
    cases body with
    | nil => exact .inr fun _ => ⟨_, .emptyBracket⟩
    | cons ch body =>
        exact .inl ⟨.atom (.bracket (ch :: body)), behind,
          by simp [Construct.text, Atom.text], List.cons_ne_nil ch body, unclosed⟩
  · exact .inr fun _ => ⟨_, .openBracket closed⟩

private theorem braces_or_obstructed (rest : List Char) :
    StartsWithConstruct ('\x7b' :: rest) ∨ IsObstructed ('\x7b' :: rest) := by
  by_cases closed : '\x7d' ∈ rest
  · obtain ⟨body, behind, rfl, unclosed⟩ := List.eq_append_cons_of_mem closed
    by_cases denotes : ∃ bounds, Bounds.Denoted body bounds
    · obtain ⟨bounds, denoted⟩ := denotes
      exact .inl ⟨.quantifier (.braces body bounds), behind,
        by simp [Construct.text, Quantifier.text], denoted⟩
    · refine .inr fun _ => ?_
      rw [← List.cons_append]
      by_cases allowed : ∀ ch ∈ body, Bounds.isBodyChar ch = true
      · exact ⟨_, .meaninglessBody allowed (not_exists.mp denotes)⟩
      · obtain ⟨digits, ch, more, rfl, before, foreign⟩ :=
          Bounds.exists_first_foreign allowed
        exact ⟨_, .foreignBody before foreign unclosed⟩
  · exact .inl ⟨looseBrace, rest, rfl, .inr ⟨rfl, closed⟩⟩

/-- A text that is not empty starts with a construct or is obstructed. -/
theorem construct_or_obstructed (ch : Char) (rest : List Char) :
    StartsWithConstruct (ch :: rest) ∨ IsObstructed (ch :: rest) := by
  by_cases special : ch ∈ openers
  · simp only [openers, List.mem_cons, List.not_mem_nil, or_false] at special
    rcases special with rfl | rfl | rfl | rfl | rfl | rfl | rfl
    · exact .inl ⟨.atom .dot, rest, rfl, trivial⟩
    · exact escape_or_obstructed rest
    · exact bracket_or_obstructed rest
    · exact .inl ⟨.quantifier .star, rest, rfl, trivial⟩
    · exact .inl ⟨.quantifier .plus, rest, rfl, trivial⟩
    · exact .inl ⟨.quantifier .question, rest, rfl, trivial⟩
    · exact braces_or_obstructed rest
  · exact .inl ⟨.atom (.literal ch), rest, rfl, .inl special⟩

end PatternDraw.Scan
