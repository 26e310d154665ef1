import PatternDraw.Proofs.Reading.Splitting

/-!
# The top level of a pattern

Brackets, escapes and braces take up the characters in them.  How far they reach is seen from the
text alone: a bracket to the first closing one behind it, or to the end of the pattern, braces to
the first closing brace, if there is one, and an escape over two characters, or four if the first
of them is an `x`.  No construct is due within any of them, and in a pattern that splits, one is
due everywhere else.
-/

namespace PatternDraw

/-! ## What is enclosed -/

/-- The place stands behind an opening character at which a construct is due, and not behind the
first closing character that follows; `rest` is the text from there on. -/
def EnclosedBy (opening closing : Char) (pattern : List Char) (offset : Nat) (rest : List Char) :
    Prop :=
  ∃ start inside, IsDue pattern start ∧ pattern.drop start = opening :: inside ++ rest ∧
    closing ∉ inside ∧ offset = start + 1 + inside.length

/-- The place lies within a bracket, which may be unclosed, or is that of its closing character. -/
def InBracket (pattern : List Char) (offset : Nat) : Prop :=
  ∃ rest, EnclosedBy '[' ']' pattern offset rest

/-- The place lies within braces that close, or is that of the closing one. -/
def InBraces (pattern : List Char) (offset : Nat) : Prop :=
  ∃ rest, EnclosedBy '\x7b' '\x7d' pattern offset rest ∧ '\x7d' ∈ rest

/-- The number of characters in an escape with this character behind its backslash. -/
def escapeWidth (ch : Char) : Nat :=
  if ch = 'x' then 4 else 2

/-- The place lies within an escape, behind its backslash. -/
def InEscape (pattern : List Char) (offset : Nat) : Prop :=
  ∃ start ch rest, IsDue pattern start ∧ pattern.drop start = '\\' :: ch :: rest ∧
    start < offset ∧ offset < start + escapeWidth ch

/-- The place lies outside of all brackets, braces and escapes. -/
structure TopLevel (pattern : List Char) (offset : Nat) : Prop where
  not_inBracket : ¬ InBracket pattern offset
  not_inBraces : ¬ InBraces pattern offset
  not_inEscape : ¬ InEscape pattern offset

/-- Behind an opening character, a text without the closing one and the place behind this text are
enclosed. -/
theorem enclosedBy_of_le {opening closing : Char} {pattern body behind : List Char}
    {start offset : Nat} (due : IsDue pattern start)
    (spelled : pattern.drop start = opening :: body ++ behind) (unclosed : closing ∉ body)
    (after : start < offset) (within : offset ≤ start + 1 + body.length) :
    EnclosedBy opening closing pattern offset (body.drop (offset - (start + 1)) ++ behind) := by
  refine ⟨start, body.take (offset - (start + 1)), due, ?_,
    fun member => unclosed (List.mem_of_mem_take member), ?_⟩
  · rw [spelled, List.cons_append, List.cons_append, ← List.append_assoc, List.take_append_drop]
  · rw [List.length_take]
    omega

/-! ## The first character of a construct -/

theorem exists_eq_bracket {construct : Construct} {behind rest : List Char}
    (stands : construct.StandsBefore behind) (spelled : construct.text ++ behind = '[' :: rest) :
    ∃ body, construct = .atom (.bracket body) := by
  rcases construct with (ch | _ | _ | _ | body) | (_ | _ | _ | _)
  case atom.bracket => exact ⟨body, rfl⟩
  case atom.literal =>
    obtain rfl : ch = '[' := (List.cons.inj spelled).1
    rcases stands with plain | ⟨brace, _⟩
    · exact absurd (by decide) plain
    · cases brace
  all_goals cases spelled

/-- A closed opening brace starts a quantifier. -/
theorem exists_eq_braces {construct : Construct} {behind rest : List Char}
    (stands : construct.StandsBefore behind) (spelled : construct.text ++ behind = '\x7b' :: rest)
    (closed : '\x7d' ∈ rest) : ∃ body bounds, construct = .quantifier (.braces body bounds) := by
  rcases construct with (ch | _ | _ | _ | _) | (_ | _ | _ | ⟨body, bounds⟩)
  case quantifier.braces => exact ⟨body, bounds, rfl⟩
  case atom.literal =>
    obtain ⟨rfl, rfl⟩ := List.cons.inj spelled
    rcases stands with plain | ⟨_, unclosed⟩
    · exact absurd (by decide) plain
    · exact absurd closed unclosed
  all_goals cases spelled

/-- A backslash starts an escape of the width that the character behind it tells. -/
theorem length_of_escape {construct : Construct} {behind rest : List Char} {ch : Char}
    (stands : construct.StandsBefore behind)
    (spelled : construct.text ++ behind = '\\' :: ch :: rest) :
    construct.text.length = escapeWidth ch := by
  rcases construct with (plain | _ | _ | escaped | _) | (_ | _ | _ | _)
  case atom.literal =>
    obtain rfl : plain = '\\' := (List.cons.inj spelled).1
    rcases stands with notOpener | ⟨brace, _⟩
    · exact absurd (by decide) notOpener
    · cases brace
  case atom.hexEscape =>
    cases spelled
    rfl
  case atom.escape =>
    obtain ⟨rfl, _⟩ := List.cons.inj (List.cons.inj spelled).2
    exact (if_neg stands).symm
  all_goals cases spelled

/-! ## Two places of a pattern -/

/-- A text starts with one construct only. -/
theorem Construct.StandsBefore.unique {first second : Construct} {rest behind : List Char}
    (stands : first.StandsBefore rest) (otherStands : second.StandsBefore behind)
    (same : first.text ++ rest = second.text ++ behind) : first = second ∧ rest = behind := by
  have read := Scan.readFrom_construct stands 0
  rw [same, Scan.readFrom_construct otherStands 0] at read
  have pieces := congrArg Scan.pieces read
  obtain rfl : second = first := congrArg Piece.construct (List.cons.inj pieces).1
  exact ⟨rfl, List.append_cancel_left same⟩

/-- Behind the shorter one of two rows of constructs at the start of a pattern, the longer one goes
on with a construct. -/
theorem SplitsUpTo.exists_construct {pattern rest behind : List Char}
    {first second : List Construct} (firstSplits : SplitsUpTo rest pattern first)
    (secondSplits : SplitsUpTo behind pattern second)
    (shorter : (textOf first).length < (textOf second).length) :
    ∃ (construct : Construct) (onward : List Char),
      rest = construct.text ++ onward ∧ construct.StandsBefore onward ∧
      (textOf first).length + construct.text.length ≤ (textOf second).length := by
  induction firstSplits generalizing second with
  | nil =>
      cases secondSplits with
      | nil => exact absurd shorter (Nat.lt_irrefl _)
      | cons stands _ =>
          refine ⟨_, _, rfl, stands, ?_⟩
          simp
  | @cons construct text constructs stands _ ih =>
      generalize textEq : construct.text ++ text = whole at secondSplits
      cases secondSplits with
      | nil => exact absurd shorter (Nat.not_lt_zero _)
      | cons otherStands otherSplits =>
          obtain ⟨rfl, rfl⟩ := stands.unique otherStands textEq
          simp only [textOf_cons, List.length_append] at shorter ⊢
          obtain ⟨next, onward, restEq, nextStands, within⟩ := ih otherSplits (by omega)
          exact ⟨next, onward, restEq, nextStands, by omega⟩

/-- A construct that is due before another place ends before it. -/
theorem IsDue.exists_construct {pattern : List Char} {start offset : Nat}
    (due : IsDue pattern start) (later : IsDue pattern offset) (before : start < offset) :
    ∃ (construct : Construct) (rest : List Char),
      pattern.drop start = construct.text ++ rest ∧ construct.StandsBefore rest ∧
      start + construct.text.length ≤ offset := by
  obtain ⟨constructs, reaches⟩ := due
  obtain ⟨others, otherReaches⟩ := later
  rw [reaches.offset_eq, otherReaches.offset_eq] at before
  obtain ⟨construct, rest, spelled, stands, within⟩ :=
    reaches.splits.exists_construct otherReaches.splits before
  rw [← reaches.offset_eq, ← otherReaches.offset_eq] at within
  exact ⟨construct, rest, spelled, stands, within⟩

/-! ## Where constructs are due -/

/-- A text without the closing character is no longer than one that this character ends. -/
theorem length_le_of_unclosed {closing : Char} {body behind inside rest : List Char}
    (same : body ++ closing :: behind = inside ++ rest) (unclosed : closing ∉ inside) :
    inside.length ≤ body.length := by
  by_contra longer
  have starts : body ++ [closing] <+: inside := by
    refine List.prefix_of_prefix_length_le ⟨behind, ?_⟩ ⟨rest, rfl⟩ ?_
    · rw [← same, List.append_assoc]
      rfl
    · rw [List.length_append, List.length_singleton]
      omega
  exact unclosed (starts.subset (List.mem_append_right _ List.mem_cons_self))

theorem IsDue.not_inBracket {pattern : List Char} {offset : Nat} (due : IsDue pattern offset) :
    ¬ InBracket pattern offset := by
  rintro ⟨rest, start, inside, startDue, spelled, unclosed, rfl⟩
  obtain ⟨construct, behind, text, stands, ends⟩ := startDue.exists_construct due (by omega)
  obtain ⟨body, rfl⟩ := exists_eq_bracket stands (text.symm.trans spelled)
  have same : body ++ ']' :: behind = inside ++ rest := by
    simpa [Construct.text, Atom.text] using text.symm.trans spelled
  have shorter := length_le_of_unclosed same unclosed
  simp only [Construct.text, Atom.text, List.length_append, List.length_cons] at ends
  omega

theorem IsDue.not_inBraces {pattern : List Char} {offset : Nat} (due : IsDue pattern offset) :
    ¬ InBraces pattern offset := by
  rintro ⟨rest, ⟨start, inside, startDue, spelled, unclosed, rfl⟩, closed⟩
  obtain ⟨construct, behind, text, stands, ends⟩ := startDue.exists_construct due (by omega)
  obtain ⟨body, bounds, rfl⟩ := exists_eq_braces stands (text.symm.trans spelled)
    (List.mem_append_right inside closed)
  have same : body ++ '\x7d' :: behind = inside ++ rest := by
    simpa [Construct.text, Quantifier.text] using text.symm.trans spelled
  have shorter := length_le_of_unclosed same unclosed
  simp only [Construct.text, Quantifier.text, List.length_append, List.length_cons] at ends
  omega

theorem IsDue.not_inEscape {pattern : List Char} {offset : Nat} (due : IsDue pattern offset) :
    ¬ InEscape pattern offset := by
  rintro ⟨start, ch, rest, startDue, spelled, before, within⟩
  obtain ⟨construct, behind, text, stands, ends⟩ := startDue.exists_construct due before
  rw [length_of_escape stands (text.symm.trans spelled)] at ends
  omega

/-- No construct is due within a bracket, braces or an escape. -/
theorem IsDue.topLevel {pattern : List Char} {offset : Nat} (due : IsDue pattern offset) :
    TopLevel pattern offset :=
  ⟨due.not_inBracket, due.not_inBraces, due.not_inEscape⟩

/-- Every place in the text of some constructs lies in one of them. -/
theorem exists_of_lt_length_textOf {constructs : List Construct} {offset : Nat}
    (within : offset < (textOf constructs).length) :
    ∃ before construct after, constructs = before ++ construct :: after ∧
      (textOf before).length ≤ offset ∧
      offset < (textOf before).length + construct.text.length := by
  induction constructs generalizing offset with
  | nil => exact absurd within (Nat.not_lt_zero offset)
  | cons first rest ih =>
      rw [textOf_cons, List.length_append] at within
      by_cases here : offset < first.text.length
      · exact ⟨[], first, rest, rfl, Nat.zero_le offset, by simpa using here⟩
      · obtain ⟨before, construct, after, rfl, starts, ends⟩ :=
          @ih (offset - first.text.length) (by omega)
        refine ⟨first :: before, construct, after, rfl, ?_, ?_⟩
        all_goals
          rw [textOf_cons, List.length_append]
          omega

/-- A place that a construct takes up behind its first character lies within a bracket, braces or
an escape. -/
theorem not_topLevel_of_construct {pattern rest : List Char} {start offset : Nat}
    {construct : Construct} (due : IsDue pattern start)
    (spelled : pattern.drop start = construct.text ++ rest)
    (stands : construct.StandsBefore rest) (after : start < offset)
    (within : offset < start + construct.text.length) : ¬ TopLevel pattern offset := by
  intro top
  rcases construct with (_ | _ | ⟨high, low⟩ | ch | body) | (_ | _ | _ | ⟨body, bounds⟩)
  case atom.hexEscape => exact top.not_inEscape ⟨start, 'x', _, due, spelled, after, within⟩
  case atom.escape =>
    have width : escapeWidth ch = 2 := if_neg stands
    exact top.not_inEscape ⟨start, ch, rest, due, spelled, after, by rw [width]; exact within⟩
  case atom.bracket =>
    have opened : pattern.drop start = '[' :: body ++ (']' :: rest) := by
      simpa [Construct.text, Atom.text] using spelled
    simp only [Construct.text, Atom.text, List.length_append, List.length_cons,
      List.length_nil] at within
    exact top.not_inBracket ⟨_, enclosedBy_of_le due opened stands.2 after (by omega)⟩
  case quantifier.braces =>
    have opened : pattern.drop start = '\x7b' :: body ++ ('\x7d' :: rest) := by
      simpa [Construct.text, Quantifier.text] using spelled
    have unclosed := Bounds.not_mem_of_isBodyChar (Bounds.Denoted.isBodyChar stands)
    simp only [Construct.text, Quantifier.text, List.length_append, List.length_cons,
      List.length_nil] at within
    exact top.not_inBraces ⟨_, enclosedBy_of_le due opened unclosed after (by omega),
      List.mem_append_right _ List.mem_cons_self⟩
  all_goals
    have narrow : offset < start + 1 := within
    omega

/-- In a pattern that splits, a construct stands at every place outside of brackets, braces and
escapes. -/
theorem Splits.exists_construct_of_topLevel {pattern : List Char} {constructs : List Construct}
    (splits : Splits pattern constructs) {offset : Nat} (top : TopLevel pattern offset)
    (within : offset < pattern.length) :
    ∃ (construct : Construct) (rest : List Char), ⟨offset, construct⟩ ∈ place 0 constructs ∧
      pattern.drop offset = construct.text ++ rest ∧ construct.StandsBefore rest := by
  rw [splits.eq_textOf] at within
  obtain ⟨before, construct, after, rfl, starts, ends⟩ := exists_of_lt_length_textOf within
  obtain ⟨rest, beforeSplits, stands⟩ := splits.splitsToEnd.of_append_cons
  have due : IsDue pattern (textOf before).length := ⟨before, beforeSplits.reaches⟩
  rcases Nat.eq_or_lt_of_le starts with rfl | behind
  · refine ⟨construct, rest, ?_, beforeSplits.drop_eq, stands⟩
    rw [place_append, Nat.zero_add]
    exact List.mem_append_right _ List.mem_cons_self
  · exact absurd top (not_topLevel_of_construct due beforeSplits.drop_eq stands behind ends)

end PatternDraw
