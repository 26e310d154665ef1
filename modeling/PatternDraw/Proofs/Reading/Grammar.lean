import PatternDraw.Pattern.Construct
import PatternDraw.Proofs.Reading.BoundsText

/-!
# The grammar of patterns

Which texts are constructs, and how a pattern falls into them.  Nothing here refers to the
reader: a construct is judged by its own text, and only an opening brace that stands for
itself depends on the text behind it, in which no closing brace may occur.
-/

namespace PatternDraw

/-! ## Constructs -/

/-- The characters that open something other than themselves. -/
def openers : List Char :=
  ['.', '\\', '[', '*', '+', '?', '\x7b']

/-- The characters that a backslash gives a meaning of their own. -/
def escapeLetters : List Char :=
  ['x', 'd', 'D', 'w', 'W', 's', 'S', 't', 'n', 'r', 'f', 'a', 'e']

/-- An opening brace that stands for itself. -/
def looseBrace : Construct :=
  .atom (.literal '\x7b')

/-- An atom is well formed where the given text follows it. -/
def Atom.StandsBefore (rest : List Char) : Atom → Prop
  | literal ch => ch ∉ openers ∨ ch = '\x7b' ∧ '\x7d' ∉ rest
  | dot => True
  | hexEscape high low => (hexDigit? high).isSome ∧ (hexDigit? low).isSome
  | escape ch => ch ≠ 'x'
  | bracket body => body ≠ [] ∧ ']' ∉ body

/-- A quantifier is well formed, whatever follows it. -/
def Quantifier.IsWellFormed : Quantifier → Prop
  | braces body bounds => Bounds.Denoted body bounds
  | _ => True

/-- A construct is well formed where the given text follows it. -/
def Construct.StandsBefore (rest : List Char) : Construct → Prop
  | .atom part => part.StandsBefore rest
  | .quantifier part => part.IsWellFormed

theorem Construct.length_text_pos (construct : Construct) : 0 < construct.text.length := by
  rcases construct with (_ | _ | _ | _ | _) | (_ | _ | _ | _) <;>
    simp [Construct.text, Atom.text, Quantifier.text]

/-- More text may follow a construct, unless it closes a loose brace. -/
theorem Construct.StandsBefore.append {construct : Construct} {rest : List Char}
    (stands : construct.StandsBefore rest) {behind : List Char}
    (unclosed : construct = looseBrace → '\x7d' ∉ behind) :
    construct.StandsBefore (rest ++ behind) := by
  cases construct with
  | quantifier part => exact stands
  | atom part =>
      cases part with
      | literal ch =>
          rcases stands with plain | ⟨rfl, restUnclosed⟩
          · exact .inl plain
          · exact .inr ⟨rfl, fun closing =>
              (List.mem_append.mp closing).elim restUnclosed (unclosed rfl)⟩
      | _ => exact stands

/-! ## Patterns -/

/-- The pattern falls, from left to right, into the given well-formed constructs. -/
inductive Splits : List Char → List Construct → Prop
  | nil : Splits [] []
  | cons {construct : Construct} {rest : List Char} {constructs : List Construct}
      (stands : construct.StandsBefore rest) (splits : Splits rest constructs) :
      Splits (construct.text ++ rest) (construct :: constructs)

/-- Constructs that follow each other from the given offset on, each with its own offset. -/
def place (offset : Nat) : List Construct → List Piece
  | [] => []
  | construct :: rest => ⟨offset, construct⟩ :: place (offset + construct.text.length) rest

@[simp]
theorem map_construct_place (offset : Nat) (constructs : List Construct) :
    (place offset constructs).map Piece.construct = constructs := by
  induction constructs generalizing offset with
  | nil => rfl
  | cons construct rest ih => simp [place, ih]

theorem construct_mem_of_mem_place {piece : Piece} {offset : Nat} {constructs : List Construct}
    (member : piece ∈ place offset constructs) : piece.construct ∈ constructs := by
  rw [← map_construct_place offset constructs]
  exact List.mem_map_of_mem member

/-- Every construct of a split stands before some text and takes up a part of the pattern. -/
theorem Splits.stands {pattern : List Char} {constructs : List Construct}
    (splits : Splits pattern constructs) {construct : Construct} (member : construct ∈ constructs) :
    (∃ rest, construct.StandsBefore rest) ∧ construct.text.length ≤ pattern.length := by
  induction splits with
  | nil => exact absurd member List.not_mem_nil
  | @cons first rest constructs stands _ ih =>
      rw [List.length_append]
      rcases List.mem_cons.mp member with rfl | behind
      · exact ⟨⟨rest, stands⟩, Nat.le_add_right _ _⟩
      · obtain ⟨standsSomewhere, length⟩ := ih behind
        exact ⟨standsSomewhere, Nat.le_trans length (Nat.le_add_left _ _)⟩

/-! ## The constructs at the start of a pattern -/

/-- The pattern falls, from left to right, into the given well-formed constructs and the text
`behind` them. -/
inductive SplitsUpTo (behind : List Char) : List Char → List Construct → Prop
  | nil : SplitsUpTo behind behind []
  | cons {construct : Construct} {rest : List Char} {constructs : List Construct}
      (stands : construct.StandsBefore rest) (splits : SplitsUpTo behind rest constructs) :
      SplitsUpTo behind (construct.text ++ rest) (construct :: constructs)

/-- The text of a row of constructs. -/
def textOf (constructs : List Construct) : List Char :=
  constructs.flatMap Construct.text

@[simp]
theorem textOf_nil : textOf [] = [] :=
  rfl

@[simp]
theorem textOf_cons (construct : Construct) (rest : List Construct) :
    textOf (construct :: rest) = construct.text ++ textOf rest :=
  rfl

@[simp]
theorem textOf_append (first second : List Construct) :
    textOf (first ++ second) = textOf first ++ textOf second :=
  List.flatMap_append

@[simp]
theorem textOf_singleton (construct : Construct) : textOf [construct] = construct.text :=
  List.append_nil _

theorem place_append (offset : Nat) (before after : List Construct) :
    place offset (before ++ after) =
      place offset before ++ place (offset + (textOf before).length) after := by
  induction before generalizing offset with
  | nil => rfl
  | cons construct rest ih =>
      rw [List.cons_append, place, place, ih, textOf_cons, List.length_append, Nat.add_assoc]
      rfl

theorem SplitsUpTo.eq_append {behind pattern : List Char} {constructs : List Construct}
    (splits : SplitsUpTo behind pattern constructs) : pattern = textOf constructs ++ behind := by
  induction splits with
  | nil => rfl
  | @cons construct rest constructs _ _ ih =>
      rw [ih, textOf_cons, List.append_assoc]

theorem Splits.eq_textOf {pattern : List Char} {constructs : List Construct}
    (splits : Splits pattern constructs) : pattern = textOf constructs := by
  induction splits with
  | nil => rfl
  | @cons construct rest constructs _ _ ih => rw [ih, textOf_cons]

/-- Constructs that stand before any text can be written one behind the other. -/
theorem splits_textOf {constructs : List Construct}
    (stand : ∀ construct ∈ constructs, ∀ rest, construct.StandsBefore rest) :
    Splits (textOf constructs) constructs := by
  induction constructs with
  | nil => exact .nil
  | cons construct rest ih =>
      have behind := ih fun other member => stand other (List.mem_cons_of_mem _ member)
      exact .cons (stand construct List.mem_cons_self (textOf rest)) behind

/-- A loose brace does not stand before every text. -/
theorem looseBrace_not_mem {constructs : List Construct}
    (stand : ∀ construct ∈ constructs, ∀ rest, construct.StandsBefore rest) :
    looseBrace ∉ constructs := by
  intro member
  rcases stand looseBrace member ['\x7d'] with plain | ⟨_, unclosed⟩
  · exact plain (by decide)
  · exact unclosed List.mem_cons_self

/-- A pattern that is used up by its constructs splits into them. -/
theorem SplitsUpTo.splits {pattern : List Char} {constructs : List Construct}
    (splits : SplitsUpTo [] pattern constructs) : Splits pattern constructs := by
  induction splits with
  | nil => exact .nil
  | cons stands _ ih => exact .cons stands ih

/-- A pattern behind another splits as it does alone; only a loose brace does not bear a closing
brace behind it. -/
theorem Splits.append {first second : List Char} {constructs others : List Construct}
    (splits : Splits first constructs) (otherSplits : Splits second others)
    (unclosed : looseBrace ∈ constructs → '\x7d' ∉ second) :
    Splits (first ++ second) (constructs ++ others) := by
  induction splits with
  | nil => exact otherSplits
  | @cons construct rest constructs stands _ ih =>
      have standsBefore : construct.StandsBefore (rest ++ second) := by
        apply stands.append
        rintro rfl
        exact unclosed List.mem_cons_self
      have onward := ih fun member => unclosed (List.mem_cons_of_mem _ member)
      rw [List.append_assoc]
      exact .cons standsBefore onward

/-- A pattern that splits is used up by its constructs. -/
theorem Splits.splitsToEnd {pattern : List Char} {constructs : List Construct}
    (splits : Splits pattern constructs) : SplitsUpTo [] pattern constructs := by
  induction splits with
  | nil => exact .nil
  | cons stands _ ih => exact .cons stands ih

/-- Constructs at the start of a text are constructs at the start of every longer one; only a
loose brace does not bear a closing brace behind it. -/
theorem SplitsUpTo.append {behind text : List Char} {constructs : List Construct}
    (splits : SplitsUpTo behind text constructs) {more : List Char}
    (unclosed : looseBrace ∈ constructs → '\x7d' ∉ more) :
    SplitsUpTo (behind ++ more) (text ++ more) constructs := by
  induction splits with
  | nil => exact .nil
  | @cons construct rest constructs stands _ ih =>
      have standsBefore : construct.StandsBefore (rest ++ more) := by
        apply stands.append
        rintro rfl
        exact unclosed List.mem_cons_self
      have onward := ih fun member => unclosed (List.mem_cons_of_mem _ member)
      rw [List.append_assoc]
      exact .cons standsBefore onward

theorem Splits.splitsUpTo {text : List Char} {constructs : List Construct}
    (splits : Splits text constructs) {behind : List Char}
    (unclosed : looseBrace ∈ constructs → '\x7d' ∉ behind) :
    SplitsUpTo behind (text ++ behind) constructs :=
  splits.splitsToEnd.append unclosed

/-- The first of some constructs stand before the others. -/
theorem SplitsUpTo.of_append {behind pattern : List Char} {before after : List Construct}
    (splits : SplitsUpTo behind pattern (before ++ after)) :
    ∃ middle, SplitsUpTo middle pattern before ∧ SplitsUpTo behind middle after := by
  induction before generalizing pattern with
  | nil => exact ⟨pattern, .nil, splits⟩
  | cons construct before ih =>
      cases splits with
      | cons stands onward =>
          obtain ⟨middle, restSplits, afterSplits⟩ := ih onward
          exact ⟨middle, .cons stands restSplits, afterSplits⟩

/-- Every construct at the start of a pattern stands behind those before it. -/
theorem SplitsUpTo.of_append_cons {behind pattern : List Char} {before after : List Construct}
    {construct : Construct} (splits : SplitsUpTo behind pattern (before ++ construct :: after)) :
    ∃ rest, SplitsUpTo (construct.text ++ rest) pattern before ∧ construct.StandsBefore rest := by
  obtain ⟨middle, beforeSplits, afterSplits⟩ := splits.of_append
  cases afterSplits with
  | cons stands _ => exact ⟨_, beforeSplits, stands⟩

/-- The first pieces of a row of placed constructs are the first of these constructs, placed. -/
theorem exists_of_place_eq_append {start : Nat} {constructs : List Construct}
    {before after : List Piece} (placed : place start constructs = before ++ after) :
    ∃ earlier later, constructs = earlier ++ later ∧ before = place start earlier ∧
      after = place (start + (textOf earlier).length) later := by
  induction constructs generalizing start before with
  | nil =>
      obtain ⟨rfl, rfl⟩ := List.append_eq_nil_iff.mp placed.symm
      exact ⟨[], [], rfl, rfl, rfl⟩
  | cons construct rest ih =>
      cases before with
      | nil => exact ⟨[], construct :: rest, rfl, rfl, placed.symm⟩
      | cons first before =>
          obtain ⟨rfl, onward⟩ := List.cons.inj placed
          obtain ⟨earlier, later, rfl, rfl, rfl⟩ := ih onward
          refine ⟨construct :: earlier, later, rfl, rfl, ?_⟩
          rw [textOf_cons, List.length_append, Nat.add_assoc]

/-- A piece in a row of placed constructs is one of them, placed behind those before it. -/
theorem exists_of_place_eq_append_cons {start : Nat} {constructs : List Construct}
    {before after : List Piece} {piece : Piece}
    (placed : place start constructs = before ++ piece :: after) :
    ∃ earlier later, constructs = earlier ++ piece.construct :: later ∧
      before = place start earlier ∧ piece.offset = start + (textOf earlier).length := by
  obtain ⟨earlier, later, rfl, rfl, behind⟩ := exists_of_place_eq_append placed
  cases later with
  | nil => cases behind
  | cons construct later =>
      cases behind
      exact ⟨earlier, later, rfl, rfl, rfl⟩

/-! ## Places in a pattern -/

/-- The constructs stand at the start of the pattern, and `offset` is the place behind them. -/
structure Reaches (pattern : List Char) (constructs : List Construct) (offset : Nat) : Prop where
  splits : SplitsUpTo (pattern.drop offset) pattern constructs
  offset_eq : offset = (textOf constructs).length

/-- Behind well-formed constructs, the next construct is due at `offset`. -/
def IsDue (pattern : List Char) (offset : Nat) : Prop :=
  ∃ constructs, Reaches pattern constructs offset

/-- Behind the constructs, a well-formed quantifier starts at `offset`. -/
structure QuantifierAt (pattern : List Char) (constructs : List Construct) (offset : Nat)
    (part : Quantifier) : Prop where
  reaches : Reaches pattern constructs offset
  wellFormed : part.IsWellFormed
  spelled : ∃ rest, pattern.drop offset = part.text ++ rest

theorem SplitsUpTo.drop_eq {behind pattern : List Char} {constructs : List Construct}
    (splits : SplitsUpTo behind pattern constructs) :
    pattern.drop (textOf constructs).length = behind := by
  rw [splits.eq_append, List.drop_left]

theorem SplitsUpTo.reaches {behind pattern : List Char} {constructs : List Construct}
    (splits : SplitsUpTo behind pattern constructs) :
    Reaches pattern constructs (textOf constructs).length := by
  refine ⟨?_, rfl⟩
  rw [splits.drop_eq]
  exact splits

/-- A placed quantifier stands where it is placed, and its text ends within that of all
constructs. -/
theorem SplitsUpTo.quantifierAt {behind pattern : List Char} {constructs : List Construct}
    (splits : SplitsUpTo behind pattern constructs) {before after : List Piece} {offset : Nat}
    {part : Quantifier}
    (placed : place 0 constructs = before ++ ⟨offset, .quantifier part⟩ :: after) :
    ∃ earlier, before = place 0 earlier ∧ QuantifierAt pattern earlier offset part ∧
      offset + part.text.length ≤ (textOf constructs).length := by
  obtain ⟨earlier, later, rfl, rfl, offsetEq⟩ := exists_of_place_eq_append_cons placed
  obtain ⟨rest, earlierSplits, wellFormed⟩ := splits.of_append_cons
  rw [Nat.zero_add] at offsetEq
  change offset = _ at offsetEq
  subst offsetEq
  refine ⟨earlier, rfl, ⟨earlierSplits.reaches, wellFormed, rest, earlierSplits.drop_eq⟩, ?_⟩
  simp only [textOf_append, textOf_cons, List.length_append, Construct.text]
  omega

/-- A placed construct is due where it is placed and stands there. -/
theorem SplitsUpTo.stands_of_mem_place {behind pattern : List Char} {constructs : List Construct}
    (splits : SplitsUpTo behind pattern constructs) {piece : Piece}
    (member : piece ∈ place 0 constructs) :
    IsDue pattern piece.offset ∧
      ∃ rest, pattern.drop piece.offset = piece.construct.text ++ rest ∧
        piece.construct.StandsBefore rest := by
  obtain ⟨before, after, placed⟩ := List.append_of_mem member
  obtain ⟨earlier, later, rfl, _, offsetEq⟩ := exists_of_place_eq_append_cons placed
  obtain ⟨rest, earlierSplits, stands⟩ := splits.of_append_cons
  rw [Nat.zero_add] at offsetEq
  rw [offsetEq]
  exact ⟨⟨earlier, earlierSplits.reaches⟩, rest, earlierSplits.drop_eq, stands⟩

end PatternDraw
