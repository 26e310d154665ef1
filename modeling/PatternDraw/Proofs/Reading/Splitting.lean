import PatternDraw.Proofs.Reading.Lookahead
import PatternDraw.Proofs.Reading.Obstruction

/-!
# Reading is splitting

A construct that stands before a text is read as that construct, and reading goes on with the
text behind it.  A pattern is therefore read to its end exactly if it splits into constructs,
and then in one way only.
-/

namespace PatternDraw.Scan

variable {rule : BraceRule}

/-! ## One character -/

theorem readFrom_of_advance {mode next : Mode} {offset : Nat} {ch : Char} {rest : List Char}
    (advances : step rule offset ch rest mode = .advance next) :
    readFrom rule mode offset (ch :: rest) = readFrom rule next (offset + 1) rest := by
  simp only [readFrom, advances]

theorem readFrom_of_finish {mode : Mode} {offset : Nat} {ch : Char} {rest : List Char}
    {piece : Piece} (finishes : step rule offset ch rest mode = .finish piece) :
    readFrom rule mode offset (ch :: rest) =
      prepend piece (readFrom rule .ready (offset + 1) rest) := by
  simp only [readFrom, finishes]

theorem readFrom_of_stop {mode : Mode} {offset : Nat} {ch : Char} {rest : List Char}
    {halt : Halt} (stops : step rule offset ch rest mode = .stop halt) :
    readFrom rule mode offset (ch :: rest) = ⟨[], some halt⟩ := by
  simp only [readFrom, stops]

/-! ## Modes that collect characters -/

/-- A mode that keeps all characters but one passes over a text without that one. -/
theorem readFrom_collect {collect : List Char → Mode} {closing : Char}
    (collects : ∀ (offset : Nat) (ch : Char) (rest seen : List Char), ch ≠ closing →
      step rule offset ch rest (collect seen) = .advance (collect (ch :: seen)))
    {body : List Char} (unclosed : closing ∉ body) (seen : List Char) (offset : Nat)
    (text : List Char) :
    readFrom rule (collect seen) offset (body ++ text) =
      readFrom rule (collect (body.reverse ++ seen)) (offset + body.length) text := by
  induction body generalizing seen offset with
  | nil => rfl
  | cons ch rest ih =>
      have other : ch ≠ closing := fun equal => unclosed (equal ▸ List.mem_cons_self)
      have restUnclosed : closing ∉ rest := fun member => unclosed (List.mem_cons_of_mem _ member)
      rw [List.cons_append, readFrom_of_advance (collects offset ch (rest ++ text) seen other),
        ih restUnclosed]
      simp [Nat.add_comm, Nat.add_left_comm]

/-- A bracket collects what is behind it, up to its end. -/
theorem readFrom_bracket {body : List Char} (unclosed : ']' ∉ body) (start : Nat)
    (text : List Char) :
    readFrom rule .ready start ('[' :: body ++ text) =
      readFrom rule (.bracket start body.reverse) (start + 1 + body.length) text := by
  have collects : ∀ (offset : Nat) (ch : Char) (rest seen : List Char), ch ≠ ']' →
      step rule offset ch rest (.bracket start seen) = .advance (.bracket start (ch :: seen)) := by
    intro offset ch rest seen other
    simp [step, other]
  calc
    readFrom rule .ready start ('[' :: body ++ text) =
        readFrom rule (.bracket start []) (start + 1) (body ++ text) := rfl
    _ = _ := by
      simpa using readFrom_collect collects unclosed [] (start + 1) text

/-- A brace with an end collects what is between them. -/
theorem readFrom_braces {body : List Char} (unclosed : '\x7d' ∉ body) (start : Nat)
    (text : List Char) :
    readFrom closesInRest .ready start ('\x7b' :: body ++ '\x7d' :: text) =
      readFrom closesInRest (.braces start body.reverse) (start + 1 + body.length)
        ('\x7d' :: text) := by
  have opens : step closesInRest start '\x7b' (body ++ '\x7d' :: text) .ready =
      .advance (.braces start []) := by
    simp [step, openStep, Opener.ofChar, closesInRest]
  have collects : ∀ (offset : Nat) (ch : Char) (rest seen : List Char), ch ≠ '\x7d' →
      step closesInRest offset ch rest (.braces start seen) =
        .advance (.braces start (ch :: seen)) := by
    intro offset ch rest seen other
    simp [step, other]
  calc
    readFrom closesInRest .ready start ('\x7b' :: body ++ '\x7d' :: text) =
        readFrom closesInRest (.braces start []) (start + 1) (body ++ '\x7d' :: text) :=
      readFrom_of_advance opens
    _ = _ := by
      simpa using readFrom_collect collects unclosed [] (start + 1) ('\x7d' :: text)

/-! ## One construct -/

theorem ofChar_of_not_mem_openers {ch : Char} (plain : ch ∉ openers) :
    Opener.ofChar ch = .literal ch := by
  unfold Opener.ofChar
  split <;> simp_all [openers]

/-- An atom that stands before a text is read as that atom. -/
theorem readFrom_atom {part : Atom} {rest : List Char} (stands : part.StandsBefore rest)
    (offset : Nat) :
    readFrom closesInRest .ready offset (part.text ++ rest) =
      prepend ⟨offset, .atom part⟩
        (readFrom closesInRest .ready (offset + part.text.length) rest) := by
  cases part with
  | literal ch =>
      refine readFrom_of_finish ?_
      rcases stands with plain | ⟨rfl, unclosed⟩
      · simp [step, openStep, ofChar_of_not_mem_openers plain, finishAtom]
      · simp [step, openStep, Opener.ofChar, closesInRest, unclosed, finishAtom]
  | dot => exact readFrom_of_finish rfl
  | hexEscape high low =>
      have closes : closeHexEscape offset high low = finishAtom offset (.hexEscape high low) := by
        simp [closeHexEscape, stands.1, stands.2]
      calc
        readFrom closesInRest .ready offset ('\\' :: 'x' :: high :: low :: rest) =
            readFrom closesInRest (.hexDigit offset high) (offset + 1 + 1 + 1) (low :: rest) := rfl
        _ = _ := readFrom_of_finish closes
  | escape ch =>
      have closes : step closesInRest (offset + 1) ch rest (.escape offset) =
          finishAtom offset (.escape ch) := by
        simp [step, show ch ≠ 'x' from stands]
      calc
        readFrom closesInRest .ready offset ('\\' :: ch :: rest) =
            readFrom closesInRest (.escape offset) (offset + 1) (ch :: rest) := rfl
        _ = _ := readFrom_of_finish closes
  | bracket body =>
      have closes : closeBracket offset body = finishAtom offset (.bracket body) := by
        simp [closeBracket, stands.1]
      calc
        readFrom closesInRest .ready offset ('[' :: body ++ [']'] ++ rest) =
            readFrom closesInRest (.bracket offset body.reverse) (offset + 1 + body.length)
              (']' :: rest) := by
          rw [List.append_assoc]
          exact readFrom_bracket stands.2 offset _
        _ = prepend ⟨offset, .atom (.bracket body)⟩
              (readFrom closesInRest .ready (offset + 1 + body.length + 1) rest) := by
          refine readFrom_of_finish ?_
          simp only [step, if_true, List.reverse_reverse, closes]
          rfl
        _ = _ := by
          simp [Atom.text, Nat.add_comm, Nat.add_left_comm]

/-- A well-formed quantifier is read as that quantifier. -/
theorem readFrom_quantifier {part : Quantifier} (wellFormed : part.IsWellFormed)
    (offset : Nat) (rest : List Char) :
    readFrom closesInRest .ready offset (part.text ++ rest) =
      prepend ⟨offset, .quantifier part⟩
        (readFrom closesInRest .ready (offset + part.text.length) rest) := by
  cases part with
  | star => exact readFrom_of_finish rfl
  | plus => exact readFrom_of_finish rfl
  | question => exact readFrom_of_finish rfl
  | braces body bounds =>
      have unclosed := Bounds.not_mem_of_isBodyChar (Bounds.Denoted.isBodyChar wellFormed)
      have closes : closeBraces offset body = finishQuantifier offset (.braces body bounds) := by
        rw [closeBraces, Bounds.read_eq_ok_iff.mpr wellFormed]
      calc
        readFrom closesInRest .ready offset ('\x7b' :: body ++ ['\x7d'] ++ rest) =
            readFrom closesInRest (.braces offset body.reverse) (offset + 1 + body.length)
              ('\x7d' :: rest) := by
          rw [List.append_assoc]
          exact readFrom_braces unclosed offset _
        _ = prepend ⟨offset, .quantifier (.braces body bounds)⟩
              (readFrom closesInRest .ready (offset + 1 + body.length + 1) rest) := by
          refine readFrom_of_finish ?_
          simp only [step, if_true, List.reverse_reverse, closes]
          rfl
        _ = _ := by
          simp [Quantifier.text, Nat.add_comm, Nat.add_left_comm]

theorem readFrom_construct {construct : Construct} {rest : List Char}
    (stands : construct.StandsBefore rest) (offset : Nat) :
    readFrom closesInRest .ready offset (construct.text ++ rest) =
      prepend ⟨offset, construct⟩
        (readFrom closesInRest .ready (offset + construct.text.length) rest) := by
  cases construct with
  | atom part => exact readFrom_atom stands offset
  | quantifier part => exact readFrom_quantifier stands offset rest

/-! ## From constructs to a reading -/

/-- The constructs at the start of a text are read first, and then what is behind them. -/
theorem readFrom_of_splitsUpTo {behind text : List Char} {constructs : List Construct}
    (splits : SplitsUpTo behind text constructs) (offset : Nat) :
    readFrom closesInRest .ready offset text =
      ⟨place offset constructs ++
          (readFrom closesInRest .ready (offset + (textOf constructs).length) behind).pieces,
        (readFrom closesInRest .ready (offset + (textOf constructs).length) behind).halt⟩ := by
  induction splits generalizing offset with
  | nil => rfl
  | cons stands _ ih =>
      rw [readFrom_construct stands, ih, textOf_cons, List.length_append, Nat.add_assoc]
      rfl

/-- A text that splits is read construct by construct, whatever follows it; only a loose brace
does not bear a closing brace behind it. -/
theorem readFrom_append_of_splits {text : List Char} {constructs : List Construct}
    (splits : Splits text constructs) {behind : List Char}
    (unclosed : looseBrace ∈ constructs → '\x7d' ∉ behind) (offset : Nat) :
    readFrom closesInRest .ready offset (text ++ behind) =
      ⟨place offset constructs ++
          (readFrom closesInRest .ready (offset + text.length) behind).pieces,
        (readFrom closesInRest .ready (offset + text.length) behind).halt⟩ := by
  rw [readFrom_of_splitsUpTo (splits.splitsUpTo unclosed), ← splits.eq_textOf]

/-- A pattern that splits is read to its end. -/
theorem ofPattern_of_splits {pattern : List Char} {constructs : List Construct}
    (splits : Splits pattern constructs) :
    ofPattern pattern = ⟨place 0 constructs, none⟩ := by
  have unclosed : looseBrace ∈ constructs → '\x7d' ∉ ([] : List Char) :=
    fun _ => List.not_mem_nil
  have read := readFrom_append_of_splits splits unclosed 0
  rw [List.append_nil] at read
  rw [ofPattern_eq_readFrom, read]
  simp [readFrom, atEnd]

/-! ## From a reading to constructs -/

/-- Reading an obstructed text stops at once, with the fault of the obstruction. -/
theorem readFrom_of_obstructs {start : Nat} {text : List Char} {halt : Halt}
    (obstructs : Obstructs start text halt) :
    readFrom closesInRest .ready start text = ⟨[], some halt⟩ := by
  cases obstructs with
  | escape short =>
      rcases short with rfl | rfl | ⟨ch, rfl⟩
      · rfl
      · rfl
      · rfl
  | @hexEscape high low rest misspelled =>
      have stops : step closesInRest (start + 1 + 1 + 1) low rest (.hexDigit start high) =
          .stop ⟨[], .invalidHexEscape start (String.ofList [high, low])⟩ := by
        rw [← Bool.and_eq_true] at misspelled
        exact if_neg misspelled
      calc
        readFrom closesInRest .ready start ('\\' :: 'x' :: high :: low :: rest) =
            readFrom closesInRest (.hexDigit start high) (start + 1 + 1 + 1) (low :: rest) := rfl
        _ = _ := readFrom_of_stop stops
  | @openBracket rest unclosed =>
      have unfinished := @readFrom_bracket closesInRest rest unclosed start []
      rw [List.append_nil] at unfinished
      rw [unfinished]
      simp [readFrom, atEnd]
  | emptyBracket => rfl
  | @foreignBody digits more rest ch allowed foreign unclosed =>
      rw [readFrom_braces unclosed]
      refine readFrom_of_stop ?_
      simp [step, closeBraces, Bounds.read_append_cons_of_foreign allowed foreign]
  | @meaninglessBody body rest allowed meaningless =>
      have unclosed := Bounds.not_mem_of_isBodyChar allowed
      rw [readFrom_braces unclosed]
      refine readFrom_of_stop ?_
      simp [step, closeBraces, Bounds.read_of_forall_not_denoted allowed meaningless]

/-- What a reading has found: the constructs at the start of the text and, unless they are all
of it, what obstructs the rest. -/
inductive Found (offset : Nat) (text : List Char) : Scan → Prop
  | complete {constructs : List Construct} (splits : SplitsUpTo [] text constructs) :
      Found offset text ⟨place offset constructs, none⟩
  | obstructed {constructs : List Construct} {behind : List Char} {halt : Halt}
      (splits : SplitsUpTo behind text constructs)
      (obstructs : Obstructs (offset + (textOf constructs).length) behind halt) :
      Found offset text ⟨place offset constructs, some halt⟩

theorem Found.cons {construct : Construct} {behind : List Char} {offset : Nat} {scan : Scan}
    (found : Found (offset + construct.text.length) behind scan)
    (stands : construct.StandsBefore behind) :
    Found offset (construct.text ++ behind) (prepend ⟨offset, construct⟩ scan) := by
  cases found with
  | complete splits => exact .complete (.cons stands splits)
  | @obstructed constructs _ halt splits obstructs =>
      refine .obstructed (.cons stands splits) ?_
      rwa [textOf_cons, List.length_append, ← Nat.add_assoc]

/-- Every text is read up to its end or to an obstruction. -/
theorem found_readFrom (offset : Nat) (text : List Char) :
    Found offset text (readFrom closesInRest .ready offset text) := by
  match text with
  | [] => exact .complete .nil
  | ch :: rest =>
      rcases construct_or_obstructed ch rest with ⟨construct, behind, textEq, stands⟩ | obstructed
      · have shorter : behind.length < (ch :: rest).length := by
          rw [textEq, List.length_append]
          exact Nat.lt_add_of_pos_left construct.length_text_pos
        rw [textEq, readFrom_construct stands]
        exact (found_readFrom _ behind).cons stands
      · obtain ⟨halt, obstructs⟩ := obstructed offset
        rw [readFrom_of_obstructs obstructs]
        exact .obstructed .nil obstructs
termination_by text.length
decreasing_by exact shorter

/-! ## The split of a pattern -/

theorem found_ofPattern (pattern : List Char) : Found 0 pattern (ofPattern pattern) := by
  rw [ofPattern_eq_readFrom]
  exact found_readFrom 0 pattern

/-- The pieces of a reading are constructs at the start of the text. -/
theorem Found.exists_splitsUpTo {offset : Nat} {text : List Char} {scan : Scan}
    (found : Found offset text scan) :
    ∃ constructs behind, SplitsUpTo behind text constructs ∧
      scan.pieces = place offset constructs := by
  cases found with
  | complete splits => exact ⟨_, [], splits, rfl⟩
  | obstructed splits _ => exact ⟨_, _, splits, rfl⟩

/-- A pattern is read to its end exactly if it splits, and its pieces are then the constructs
of the split in their places. -/
theorem ofPattern_eq_iff_splits {pattern : List Char} {pieces : List Piece} :
    ofPattern pattern = ⟨pieces, none⟩ ↔
      ∃ constructs, Splits pattern constructs ∧ pieces = place 0 constructs := by
  constructor
  · intro read
    have found := found_ofPattern pattern
    rw [read] at found
    cases found with
    | complete splits => exact ⟨_, splits.splits, rfl⟩
  · rintro ⟨constructs, splits, rfl⟩
    exact ofPattern_of_splits splits

/-- A pattern splits in one way only. -/
theorem splits_unique {pattern : List Char} {first second : List Construct}
    (firstSplits : Splits pattern first) (secondSplits : Splits pattern second) :
    first = second := by
  have placed : place 0 first = place 0 second :=
    congrArg Scan.pieces
      ((ofPattern_of_splits firstSplits).symm.trans (ofPattern_of_splits secondSplits))
  simpa using congrArg (List.map Piece.construct) placed

end PatternDraw.Scan
