import Mathlib.Data.List.Forall2
import PatternDraw.Proofs.Compiling.Concatenation
import PatternDraw.Proofs.Reading.Places

/-!
# Spellings of a quantifier

The same bounds can be spelled in several ways: by a mark or between braces, with open bounds
written out or left open, with leading zeros.  Wherever a quantifier stands, another one with
the same bounds can take its place.  The two compilations make the same draws and come to the
same slots and warnings, or to the same fault; only what stands behind the start of the
quantifier is moved by the difference of the two widths.
-/

namespace PatternDraw

/-! ## Moving places -/

/-- The slot of a construct whose place has moved. -/
def Slot.relocate (move : Nat → Nat) (slot : Slot) : Slot :=
  { slot with offset := move slot.offset }

/-- The warning about a character whose place has moved. -/
def Warning.relocate (move : Nat → Nat) (warning : Warning) : Warning :=
  { warning with offset := move warning.offset }

/-- The fault of a pattern whose places have moved. -/
def Fault.relocate (move : Nat → Nat) : Fault → Fault
  | unterminatedEscape offset => unterminatedEscape (move offset)
  | invalidHexEscape offset digits => invalidHexEscape (move offset) digits
  | unmatchedBracket offset => unmatchedBracket (move offset)
  | emptyBracket offset => emptyBracket (move offset)
  | invalidRepeatBody offset ch => invalidRepeatBody (move offset) ch
  | malformedRange offset body => malformedRange (move offset) body
  | invertedRange offset lower upper => invertedRange (move offset) lower upper
  | repeatTooLarge offset count limit => repeatTooLarge (move offset) count limit
  | danglingQuantifier offset => danglingQuantifier (move offset)
  | unknownLetter letter => unknownLetter letter

/-- The end of a reading whose places have moved. -/
def Halt.relocate (move : Nat → Nat) (halt : Halt) : Halt :=
  ⟨halt.warnings.map (Warning.relocate move), halt.fault.relocate move⟩

/-- The template of constructs whose places have moved. -/
def Template.relocate (move : Nat → Nat) (template : Template) : Template :=
  ⟨template.slots.map (Slot.relocate move)⟩

namespace Template

theorem relocate_empty (move : Nat → Nat) : empty.relocate move = empty := by
  simp [relocate, empty]

theorem last?_relocate (move : Nat → Nat) (template : Template) :
    (template.relocate move).last? = template.last?.map (Slot.relocate move) := by
  simp [last?, relocate]

theorem push_relocate (move : Nat → Nat) (template : Template) (slot : Slot) :
    (template.relocate move).push (slot.relocate move) =
      (template.push slot).relocate move := by
  simp [push, relocate]

theorem replaceLast_relocate (move : Nat → Nat) (template : Template) (count : Nat)
    (slot : Slot) :
    (template.relocate move).replaceLast count (slot.relocate move) =
      (template.replaceLast count slot).relocate move := by
  simp [replaceLast, relocate]

end Template

/-- What has moved from one distance to another one. -/
theorem Warning.relocate_displace {move : Nat → Nat} {first second : Nat}
    (moves : ∀ offset, move (offset + first) = offset + second) (warning : Warning) :
    (warning.displace first).relocate move = warning.displace second := by
  simp [displace, relocate, moves]

theorem Fault.relocate_displace {move : Nat → Nat} {first second : Nat}
    (moves : ∀ offset, move (offset + first) = offset + second) (fault : Fault) :
    (fault.displace first).relocate move = fault.displace second := by
  cases fault <;> simp [displace, relocate, moves]

theorem map_relocate_displace {move : Nat → Nat} {first second : Nat}
    (moves : ∀ offset, move (offset + first) = offset + second) (warnings : List Warning) :
    (warnings.map (Warning.displace first)).map (Warning.relocate move) =
      warnings.map (Warning.displace second) := by
  rw [List.map_map]
  exact List.map_congr_left fun warning _ => Warning.relocate_displace moves warning

theorem Halt.relocate_displace {move : Nat → Nat} {first second : Nat}
    (moves : ∀ offset, move (offset + first) = offset + second) (halt : Halt) :
    (halt.displace first).relocate move = halt.displace second := by
  rw [displace, relocate, map_relocate_displace moves, Fault.relocate_displace moves]
  rfl

namespace Compilation

variable {σ : Type} [EntropySource σ]

/-- The outcome of a compilation in which the places have moved. -/
def relocateOutcome (move : Nat → Nat) : Except Fault Template → Except Fault Template
  | .ok template => .ok (template.relocate move)
  | .error fault => .error (fault.relocate move)

/-- The compilation in which the places have moved.  The rest of the source is the same. -/
def relocate (move : Nat → Nat) (compilation : Compilation σ) : Compilation σ where
  outcome := relocateOutcome move compilation.outcome
  warnings := compilation.warnings.map (Warning.relocate move)
  source := compilation.source

/-! ## Corresponding pieces -/

/-- The pieces differ in their places only, and quantifiers also in how their bounds are
spelled. -/
inductive Corresponds (limits : Limits) (move : Nat → Nat) : Piece → Piece → Prop
  | atom {offset : Nat} {part : Atom}
      (warned : part.warnings (move offset) =
        (part.warnings offset).map (Warning.relocate move)) :
      Corresponds limits move ⟨offset, .atom part⟩ ⟨move offset, .atom part⟩
  | quantifier {offset : Nat} {part other : Quantifier}
      (sameLower : other.bounds.lower = part.bounds.lower)
      (sameUpper : upperBound limits other.bounds = upperBound limits part.bounds) :
      Corresponds limits move ⟨offset, .quantifier part⟩ ⟨move offset, .quantifier other⟩

theorem Corresponds.warnings_eq {limits : Limits} {move : Nat → Nat} {piece other : Piece}
    (corresponds : Corresponds limits move piece other) :
    other.warnings = piece.warnings.map (Warning.relocate move) := by
  cases corresponds with
  | atom warned => exact warned
  | quantifier => rfl

/-- A piece corresponds to itself where nothing moves. -/
theorem Corresponds.of_fixed (limits : Limits) {move : Nat → Nat} {piece : Piece}
    (fixed : ∀ offset < piece.offset + piece.construct.text.length, move offset = offset) :
    Corresponds limits move piece piece := by
  have here : move piece.offset = piece.offset :=
    fixed _ (Nat.lt_add_of_pos_right piece.construct.length_text_pos)
  have unmoved : ∀ warning ∈ piece.warnings, warning.relocate move = id warning := by
    intro warning member
    rw [Warning.relocate, fixed _ (Piece.warnings_within member).2]
    rfl
  have warned : piece.warnings = piece.warnings.map (Warning.relocate move) := by
    rw [List.map_congr_left unmoved, List.map_id]
  rcases piece with ⟨offset, part | part⟩
  · change move offset = offset at here
    have corresponds := @Corresponds.atom limits move offset part (by rwa [here])
    rwa [here] at corresponds
  · change move offset = offset at here
    have corresponds := @Corresponds.quantifier limits move offset part part rfl rfl
    rwa [here] at corresponds

/-- Pieces at two distances from the same place correspond. -/
theorem Corresponds.of_displaced (limits : Limits) {move : Nat → Nat} {first second : Nat}
    (moves : ∀ offset, move (offset + first) = offset + second) (piece : Piece) :
    Corresponds limits move (piece.displace first) (piece.displace second) := by
  rcases piece with ⟨offset, part | part⟩
  · have warned : part.warnings (move (offset + first)) =
        (part.warnings (offset + first)).map (Warning.relocate move) := by
      rw [moves, Atom.warnings_displace, Atom.warnings_displace, map_relocate_displace moves]
    have corresponds := @Corresponds.atom limits move (offset + first) part warned
    rwa [moves] at corresponds
  · have corresponds := @Corresponds.quantifier limits move (offset + first) part part rfl rfl
    rwa [moves] at corresponds

/-- Constructs in their places correspond to themselves where nothing within them moves. -/
theorem corresponds_place (limits : Limits) {move : Nat → Nat} {constructs : List Construct}
    (fixed : ∀ offset < (textOf constructs).length, move offset = offset) :
    List.Forall₂ (Corresponds limits move) (place 0 constructs) (place 0 constructs) := by
  apply List.forall₂_same.mpr
  intro piece member
  apply Corresponds.of_fixed limits
  intro offset inside
  have within := (within_of_mem_place member).2
  exact fixed offset (by omega)

/-- Pieces at two distances correspond one by one. -/
theorem corresponds_displaced (limits : Limits) {move : Nat → Nat} {first second : Nat}
    (moves : ∀ offset, move (offset + first) = offset + second) (pieces : List Piece) :
    List.Forall₂ (Corresponds limits move) (pieces.map (Piece.displace first))
      (pieces.map (Piece.displace second)) := by
  rw [List.forall₂_map_left_iff, List.forall₂_map_right_iff]
  exact List.forall₂_same.mpr fun piece _ => .of_displaced limits moves piece

theorem map_relocate_halt {move : Nat → Nat} {first second : Nat}
    (moves : ∀ offset, move (offset + first) = offset + second) (halt : Option Halt) :
    (halt.map (Halt.displace first)).map (Halt.relocate move) =
      halt.map (Halt.displace second) := by
  rw [Option.map_map]
  exact Option.map_congr fun stop _ => Halt.relocate_displace moves stop

/-! ## Corresponding runs -/

theorem repeatLast_relocate (move : Nat → Nat) {limits : Limits} {bounds other : Bounds}
    (sameLower : other.lower = bounds.lower)
    (sameUpper : upperBound limits other = upperBound limits bounds) (offset : Nat)
    (template : Template) (source : σ) :
    repeatLast limits (move offset) other (template.relocate move) source =
      (relocateOutcome move (repeatLast limits offset bounds template source).1,
        (repeatLast limits offset bounds template source).2) := by
  unfold upperBound at sameUpper
  unfold repeatLast
  dsimp only
  rw [sameLower, sameUpper]
  split
  · rfl
  · split
    · rfl
    · rw [Template.last?_relocate]
      cases template.last? with
      | none => rfl
      | some slot =>
          simp only [Option.map_some]
          split
          · rfl
          · rw [Template.replaceLast_relocate]
            rfl

theorem applyPiece_relocate {move : Nat → Nat} {limits : Limits} {piece other : Piece}
    (corresponds : Corresponds limits move piece other) (template : Template) (source : σ) :
    applyPiece limits other (template.relocate move) source =
      (relocateOutcome move (applyPiece limits piece template source).1,
        (applyPiece limits piece template source).2) := by
  cases corresponds with
  | @atom offset part =>
      exact congrArg (fun next => (Except.ok next, source))
        (Template.push_relocate move template ⟨part.alphabet, offset⟩)
  | quantifier sameLower sameUpper =>
      exact repeatLast_relocate move sameLower sameUpper _ template source

theorem ofPieces_relocate {move : Nat → Nat} {limits : Limits} {pieces others : List Piece}
    (corresponding : List.Forall₂ (Corresponds limits move) pieces others) (halt : Option Halt)
    (template : Template) (source : σ) :
    ofPieces limits (halt.map (Halt.relocate move)) others (template.relocate move) source =
      (ofPieces limits halt pieces template source).relocate move := by
  induction corresponding generalizing template source with
  | nil => cases halt <;> rfl
  | @cons piece other pieces others corresponds _ ih =>
      have applied := applyPiece_relocate corresponds template source
      cases step : applyPiece limits piece template source with
      | mk outcome after =>
          rw [step] at applied
          cases outcome with
          | ok next =>
              rw [ofPieces_of_ok step, ofPieces_of_ok applied, ih, corresponds.warnings_eq]
              simp [relocate, prependWarnings]
          | error fault =>
              rw [ofPieces_of_error step, ofPieces_of_error applied, corresponds.warnings_eq]
              rfl

/-! ## Constructs between two texts -/

/-- The place of a character once the text of width `old` at `start` has given way to a text of
width `new`: what does not stand behind `start` keeps its place. -/
def respaced (start old new offset : Nat) : Nat :=
  if offset ≤ start then offset else offset + new - old

theorem respaced_of_le {start offset : Nat} (within : offset ≤ start) (old new : Nat) :
    respaced start old new offset = offset :=
  if_pos within

theorem respaced_add {old : Nat} (positive : 0 < old) (start new offset : Nat) :
    respaced start old new (offset + (start + old)) = offset + (start + new) := by
  unfold respaced
  rw [if_neg (by omega)]
  omega

/-- What is read of constructs that stand between two texts: first what is before them, then the
constructs, then the text behind them, moved by its distance. -/
theorem ofPattern_append_row {before : List Char} {constructs : List Construct}
    (splits : Splits before constructs) (noneLoose : looseBrace ∉ constructs)
    {row : List Construct} (stand : ∀ construct ∈ row, ∀ rest, construct.StandsBefore rest)
    (behind : List Char) :
    Scan.ofPattern (before ++ textOf row ++ behind) =
      ⟨place 0 constructs ++ (place before.length row ++
          (Scan.ofPattern behind).pieces.map
            (Piece.displace (before.length + (textOf row).length))),
        (Scan.ofPattern behind).halt.map
          (Halt.displace (before.length + (textOf row).length))⟩ := by
  have joined : Splits (before ++ textOf row) (constructs ++ row) :=
    splits.append (splits_textOf stand) fun loose => absurd loose noneLoose
  have noneBefore : looseBrace ∉ constructs ++ row := by
    rw [List.mem_append, not_or]
    exact ⟨noneLoose, looseBrace_not_mem stand⟩
  have unclosed : looseBrace ∈ constructs ++ row → '\x7d' ∉ behind :=
    fun loose => absurd loose noneBefore
  rw [ofPattern_append_of_splits joined unclosed, place_append, ← splits.eq_textOf, Nat.zero_add,
    List.append_assoc, List.length_append]

/-- A pattern that compiles and keeps no opening brace splits without a loose brace. -/
theorem exists_splits_of_unbraced {limits : Limits} {pattern : String} {source : σ}
    {template : Template} (compiled : (ofPattern limits pattern source).outcome = .ok template)
    (unbraced : ∀ warning ∈ (ofPattern limits pattern source).warnings,
      ¬ (warning.kind = .metacharacter ∧ warning.ch = '\x7b')) :
    ∃ constructs, Splits pattern.toList constructs ∧ looseBrace ∉ constructs := by
  obtain ⟨constructs, splits, _, compiledEq⟩ := exists_of_ofPattern_eq_ok compiled
  refine ⟨constructs, splits, ?_⟩
  intro loose
  rw [compiledEq] at unbraced
  obtain ⟨warning, member, isLoose⟩ := looseBrace_warning_mem loose 0
  exact unbraced warning member isLoose

/-! ## Interchange -/

/-- With another spelling of the same bounds, corresponding pieces are read, and reading stops for
the same reason. -/
theorem corresponding_ofPattern {limits : Limits} {before : List Char}
    {constructs : List Construct} (behind : List Char) (splits : Splits before constructs)
    (noneLoose : looseBrace ∉ constructs) {first second : Quantifier}
    (firstFormed : first.IsWellFormed) (secondFormed : second.IsWellFormed)
    (sameLower : second.bounds.lower = first.bounds.lower)
    (sameUpper : upperBound limits second.bounds = upperBound limits first.bounds) :
    let move := respaced before.length first.text.length second.text.length
    List.Forall₂ (Corresponds limits move)
        (Scan.ofPattern (before ++ first.text ++ behind)).pieces
        (Scan.ofPattern (before ++ second.text ++ behind)).pieces ∧
      (Scan.ofPattern (before ++ second.text ++ behind)).halt =
        (Scan.ofPattern (before ++ first.text ++ behind)).halt.map (Halt.relocate move) := by
  intro move
  have moves : ∀ offset, move (offset + (before.length + first.text.length)) =
      offset + (before.length + second.text.length) :=
    respaced_add (Construct.length_text_pos (.quantifier first)) _ _
  have stands {part : Quantifier} (formed : part.IsWellFormed) :
      ∀ construct ∈ [Construct.quantifier part], ∀ rest, construct.StandsBefore rest := by
    intro construct member rest
    rw [List.mem_singleton.mp member]
    exact formed
  have firstRead := ofPattern_append_row splits noneLoose (stands firstFormed) behind
  have secondRead := ofPattern_append_row splits noneLoose (stands secondFormed) behind
  rw [textOf_singleton] at firstRead secondRead
  simp only [Construct.text] at firstRead secondRead
  rw [firstRead, secondRead]
  refine ⟨List.rel_append ?_ (.cons ?_ (corresponds_displaced limits moves _)),
    (map_relocate_halt moves _).symm⟩
  · apply corresponds_place limits
    intro offset inside
    rw [← splits.eq_textOf] at inside
    exact respaced_of_le (Nat.le_of_lt inside) _ _
  · have here : move before.length = before.length := respaced_of_le (Nat.le_refl _) _ _
    have corresponds := @Corresponds.quantifier limits move before.length _ _ sameLower sameUpper
    rwa [here] at corresponds

/-- A quantifier behind a pattern that compiles on its own, under any limits and with any source,
and that keeps no opening brace, can be spelled in any way that sets the same bounds.  The
compilation with the one spelling is that with the other: it leaves the same of the source, it has
the same slots or the same fault and the same warnings, and the places behind the start of the
quantifier are moved by the difference of the two widths. -/
theorem ofPattern_interchange {τ : Type} [EntropySource τ] (limits ownLimits : Limits)
    (before behind : String) (own : τ) (template : Template)
    (compiled : (ofPattern ownLimits before own).outcome = .ok template)
    (unbraced : ∀ warning ∈ (ofPattern ownLimits before own).warnings,
      ¬ (warning.kind = .metacharacter ∧ warning.ch = '\x7b'))
    (first second : Quantifier) (firstFormed : first.IsWellFormed)
    (secondFormed : second.IsWellFormed)
    (sameLower : second.bounds.lower = first.bounds.lower)
    (sameUpper : upperBound limits second.bounds = upperBound limits first.bounds)
    (source : σ) :
    ofPattern limits (before ++ String.ofList second.text ++ behind) source =
      (ofPattern limits (before ++ String.ofList first.text ++ behind) source).relocate
        (respaced before.length first.text.length second.text.length) := by
  obtain ⟨constructs, splits, noneLoose⟩ := exists_splits_of_unbraced compiled unbraced
  obtain ⟨pieces, halts⟩ := corresponding_ofPattern behind.toList splits noneLoose
    firstFormed secondFormed sameLower sameUpper
  rw [String.length_toList] at pieces halts
  simp only [ofPattern, ofScan, String.toList_append, String.toList_ofList, halts]
  have run := ofPieces_relocate pieces
    (Scan.ofPattern (before.toList ++ first.text ++ behind.toList)).halt .empty source
  rwa [Template.relocate_empty] at run

/-- A star and bounds with leading zeros, between a mark and a quantifier. -/
theorem star_interchange :
    let limits : Limits := { openUpper := 3 }
    let words : CyclicWords := ⟨0x80000000, [], []⟩
    let bounds : Bounds := ⟨0, some 3⟩
    (ofPattern limits "a(" words).outcome = .ok ⟨#[⟨.single 'a', 0⟩, ⟨.single '(', 1⟩]⟩ ∧
      (∀ warning ∈ (ofPattern limits "a(" words).warnings,
        ¬ (warning.kind = .metacharacter ∧ warning.ch = '\x7b')) ∧
      Quantifier.IsWellFormed (.braces "00,03".toList bounds) ∧
      upperBound limits bounds = upperBound limits Quantifier.star.bounds ∧
      (ofPattern limits "a(\x7b00,03\x7d$b\x7b2\x7d" words).outcome =
        .ok ⟨#[⟨.single 'a', 0⟩, ⟨.single '(', 1⟩, ⟨.single '(', 1⟩, ⟨.single '$', 9⟩,
          ⟨.single 'b', 10⟩, ⟨.single 'b', 10⟩]⟩ ∧
      (ofPattern limits "a(\x7b00,03\x7d$b\x7b2\x7d" words).warnings =
        [⟨.metacharacter, '(', 1⟩, ⟨.metacharacter, '$', 9⟩] := by
  intro limits words bounds
  have compiled : (ofPattern limits "a(" words).outcome =
      .ok ⟨#[⟨.single 'a', 0⟩, ⟨.single '(', 1⟩]⟩ := by decide +kernel
  have unbraced : ∀ warning ∈ (ofPattern limits "a(" words).warnings,
      ¬ (warning.kind = .metacharacter ∧ warning.ch = '\x7b') := by decide +kernel
  have formed : Quantifier.IsWellFormed (.braces "00,03".toList bounds) :=
    Bounds.read_eq_ok_iff.mp (by decide +kernel)
  have sameUpper : upperBound limits bounds = upperBound limits Quantifier.star.bounds := rfl
  refine ⟨compiled, unbraced, formed, sameUpper, ?_⟩
  have interchanged := ofPattern_interchange limits limits "a(" "$b\x7b2\x7d" words _ compiled
    unbraced .star (.braces "00,03".toList bounds) trivial formed rfl sameUpper words
  have joined : "a(" ++ String.ofList (Quantifier.text (.braces "00,03".toList bounds)) ++
      "$b\x7b2\x7d" = "a(\x7b00,03\x7d$b\x7b2\x7d" := by decide +kernel
  rw [joined] at interchanged
  rw [interchanged]
  exact ⟨by decide +kernel, by decide +kernel⟩

end Compilation

end PatternDraw
