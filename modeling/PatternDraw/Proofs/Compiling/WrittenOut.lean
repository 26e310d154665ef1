import PatternDraw.Proofs.Compiling.AtomRows
import PatternDraw.Proofs.Compiling.Finality
import PatternDraw.Proofs.Compiling.Interchange
import PatternDraw.Proofs.Drawing.Texts

/-!
# Repetitions written out

A quantifier with a single count puts copies of the last slot in its place and draws nothing, so
it comes to the same as writing its atom that many times.  The slots of the written-out atoms
differ from the copies in their places only, and whatever follows acts on them alike: also a
quantifier, which repeats the last of them, or what stands before them if there are none.
-/

namespace PatternDraw

/-! ## Numerals -/

/-- Every count of 64 bits has a numeral. -/
theorem Bounds.isNumeral_toDigits {count : Nat} (fits : count < 2 ^ 64) :
    IsNumeral (Nat.toDigits 10 count) count := by
  refine ⟨Nat.toDigits_ne_nil, ?_, ?_, fits⟩
  · intro ch member
    have digit := Nat.isDigit_of_mem_toDigits (by decide) (by decide) member
    rwa [← Bounds.isDigit_eq] at digit
  · exact Nat.ofDigitChars_toDigits (by decide) (by decide)

/-- The quantifier that asks for one count, spelled by the given digits. -/
def Quantifier.exactly (digits : List Char) (count : Nat) : Quantifier :=
  .braces digits ⟨count, some count⟩

/-! ## Slots in a row of atoms -/

/-- The slots of a row of atoms have their alphabets and lie within its text. -/
theorem of_mem_slotsOf {slot : Slot} {start : Nat} {parts : List Atom}
    (member : slot ∈ slotsOf start parts) :
    (∃ part ∈ parts, slot.alphabet = part.alphabet) ∧
      start ≤ slot.offset ∧ slot.offset < start + (rowText parts).length := by
  induction parts generalizing start with
  | nil => cases member
  | cons part rest ih =>
      have width : 0 < part.text.length := Construct.length_text_pos (.atom part)
      rw [rowText_cons, List.length_append]
      rcases List.mem_cons.mp member with rfl | behind
      · refine ⟨⟨part, List.mem_cons_self, rfl⟩, Nat.le_refl _, ?_⟩
        dsimp only
        omega
      · obtain ⟨⟨other, otherMember, alphabet⟩, least, greatest⟩ := ih behind
        refine ⟨⟨other, List.mem_cons_of_mem _ otherMember, alphabet⟩, ?_, ?_⟩
        · omega
        · omega

theorem length_slotsOf (start : Nat) (parts : List Atom) :
    (slotsOf start parts).length = parts.length := by
  induction parts generalizing start with
  | nil => rfl
  | cons part rest ih => rw [slotsOf, List.length_cons, List.length_cons, ih]

/-! ## Gathered places -/

/-- The place of a character once the text of width `old` at `start` has given way to a text of
width `new`, all of whose slots stand at its start. -/
def gathered (start old new offset : Nat) : Nat :=
  if offset < start + old then min offset start else offset + new - old

theorem gathered_of_lt {start offset : Nat} (before : offset < start) (old new : Nat) :
    gathered start old new offset = offset := by
  unfold gathered
  rw [if_pos (by omega), Nat.min_eq_left (Nat.le_of_lt before)]

theorem gathered_of_within {start old offset : Nat} (least : start ≤ offset)
    (greatest : offset < start + old) (new : Nat) : gathered start old new offset = start := by
  unfold gathered
  rw [if_pos greatest, Nat.min_eq_right least]

theorem gathered_add (start old new offset : Nat) :
    gathered start old new (offset + (start + old)) = offset + (start + new) := by
  unfold gathered
  rw [if_neg (by omega)]
  omega

/-- The slots of an atom that is written several times gather into copies of one slot. -/
theorem map_gathered_slotsOf (start new count : Nat) (part : Atom) :
    (slotsOf start (List.replicate count part)).map
        (Slot.relocate (gathered start (rowText (List.replicate count part)).length new)) =
      List.replicate count ⟨part.alphabet, start⟩ := by
  apply List.eq_replicate_iff.mpr
  constructor
  · rw [List.length_map, length_slotsOf, List.length_replicate]
  · intro slot member
    obtain ⟨written, writtenMember, rfl⟩ := List.mem_map.mp member
    obtain ⟨⟨other, otherMember, alphabet⟩, least, greatest⟩ := of_mem_slotsOf writtenMember
    rw [List.eq_of_mem_replicate otherMember] at alphabet
    rw [Slot.relocate, alphabet, gathered_of_within least greatest]

theorem Template.toList_relocate (move : Nat → Nat) (template : Template) :
    (template.relocate move).toList = template.toList.map (Slot.relocate move) := by
  simp [relocate, toList]

/-- What is drawn does not depend on places. -/
theorem Template.draw_relocate {σ : Type} [EntropySource σ] (move : Nat → Nat)
    (template : Template) (source : σ) :
    (template.relocate move).draw source = template.draw source := by
  rw [draw_eq_drawSlots, draw_eq_drawSlots, toList_relocate, drawSlots, List.foldl_map]
  rfl

namespace Compilation

variable {σ : Type} [EntropySource σ]

/-! ## The two rows -/

/-- An atom with an exact quantifier adds copies of its slot without a draw. -/
theorem exists_ofPieces_exactly {limits : Limits} {count : Nat}
    (limited : count ≤ limits.repeatLimit) (held : count ≤ limits.capacity) (start : Nat)
    (part : Atom) (digits : List Char) (template : Template) (source : σ) :
    ∃ result found, ofPieces limits none
        (place start [.atom part, .quantifier (.exactly digits count)]) template source =
          ⟨.ok result, found, source⟩ ∧
      result.toList = template.toList ++ List.replicate count ⟨part.alphabet, start⟩ := by
  let slot : Slot := ⟨part.alphabet, start⟩
  let offset := start + part.text.length
  have pushed : (template.push slot).toList = template.toList ++ [slot] :=
    Template.toList_push template slot
  have last := Template.last?_eq_some_iff.mpr ⟨template.toList, pushed⟩
  have chosen : chooseCount count count source = (count, source) := if_pos rfl
  have found : repetitions limits offset ⟨count, some count⟩ source = (.ok count, source) :=
    repetitions_eq_ok_iff.mpr ⟨⟨Nat.le_refl count, limited⟩, chosen, held⟩
  have applied : applyPiece limits ⟨offset, .quantifier (.exactly digits count)⟩
      (template.push slot) source = _ :=
    repeatLast_of_last last limits offset ⟨count, some count⟩ source
  rw [found] at applied
  rw [place, ofPieces_atom, place]
  exact ⟨_, _, congrArg (prependWarnings _) (ofPieces_of_ok applied []),
    Template.toList_replaceLast_of_eq pushed count⟩

/-- Behind the same template, the row with the quantifier and the row that is written out lead to
the same outcome, once the places are gathered. -/
theorem outcome_ofPieces_exactly {limits : Limits} {count : Nat}
    (limited : count ≤ limits.repeatLimit) (held : count ≤ limits.capacity) {start : Nat}
    {part : Atom} (digits : List Char) {template : Template} {move : Nat → Nat}
    (unmoved : template.relocate move = template)
    (gathers : (slotsOf start (List.replicate count part)).map (Slot.relocate move) =
      List.replicate count ⟨part.alphabet, start⟩)
    {pieces others : List Piece}
    (corresponding : List.Forall₂ (Corresponds limits move) pieces others) (halt : Option Halt)
    (source : σ) :
    let once := place start [.atom part, .quantifier (.exactly digits count)]
    let copies := place start ((List.replicate count part).map Construct.atom)
    let written := ofPieces limits halt (copies ++ pieces) template source
    let repeated := ofPieces limits (halt.map (Halt.relocate move)) (once ++ others) template source
    repeated.outcome = relocateOutcome move written.outcome ∧ repeated.source = written.source := by
  intro once copies written repeated
  have separate := ofPieces_atoms limits start (List.replicate count part) template source
  obtain ⟨result, found, exactly, resultSlots⟩ :=
    exists_ofPieces_exactly limited held start part digits template source
  have unmovedSlots : template.toList.map (Slot.relocate move) = template.toList := by
    rw [← Template.toList_relocate, unmoved]
  have gathered : result =
      Template.relocate move
        ⟨(template.toList ++ slotsOf start (List.replicate count part)).toArray⟩ := by
    apply Template.toList_injective
    rw [resultSlots, Template.toList_relocate]
    change _ = (template.toList ++ slotsOf start (List.replicate count part)).map _
    rw [List.map_append, unmovedSlots, gathers]
  have writtenEq : written = _ :=
    ofPieces_append (congrArg Compilation.outcome separate) halt pieces
  have repeatedEq : repeated = _ :=
    ofPieces_append (congrArg Compilation.outcome exactly) (halt.map (Halt.relocate move)) others
  rw [separate] at writtenEq
  rw [exactly, gathered, ofPieces_relocate corresponding] at repeatedEq
  rw [writtenEq, repeatedEq]
  exact ⟨rfl, rfl⟩

/-! ## The two patterns -/

/-- Nothing moves in a run over constructs within which no place moves. -/
theorem relocate_ofPieces_place (limits : Limits) {move : Nat → Nat} {constructs : List Construct}
    (fixed : ∀ offset < (textOf constructs).length, move offset = offset) (source : σ) :
    (ofPieces limits none (place 0 constructs) .empty source).relocate move =
      ofPieces limits none (place 0 constructs) .empty source := by
  have run := ofPieces_relocate (corresponds_place limits fixed) none .empty source
  rw [Template.relocate_empty] at run
  exact run.symm

theorem rowText_replicate (count : Nat) (part : Atom) :
    rowText (List.replicate count part) = (List.replicate count part.text).flatten := by
  rw [rowText, textOf, List.flatMap_map, List.flatMap_def, List.map_replicate]
  rfl

/-- With an exact quantifier a pattern comes to what it comes to with the atom written out, once
the places are gathered. -/
theorem outcome_ofPattern_exactly {limits : Limits} {before : List Char}
    {constructs : List Construct} (splits : Splits before constructs)
    (noneLoose : looseBrace ∉ constructs) {part : Atom} (stands : ∀ rest, part.StandsBefore rest)
    {digits : List Char} {count : Nat} (numeral : Bounds.IsNumeral digits count)
    (limited : count ≤ limits.repeatLimit) (held : count ≤ limits.capacity)
    (behind : List Char) (source : σ) :
    let once := [.atom part, .quantifier (.exactly digits count)]
    let copies := (List.replicate count part).map Construct.atom
    let move := gathered before.length (textOf copies).length (textOf once).length
    let repeated := ofScan limits (Scan.ofPattern (before ++ textOf once ++ behind)) source
    let written := ofScan limits (Scan.ofPattern (before ++ textOf copies ++ behind)) source
    repeated.outcome = relocateOutcome move written.outcome ∧ repeated.source = written.source := by
  intro once copies move repeated written
  have onceStand : ∀ construct ∈ once, ∀ rest, construct.StandsBefore rest := by
    intro construct member rest
    rcases List.mem_cons.mp member with rfl | behindMember
    · exact stands rest
    · rw [List.mem_singleton.mp behindMember]
      exact Bounds.Denoted.exact numeral
  have copiesStand : ∀ construct ∈ copies, ∀ rest, construct.StandsBefore rest := by
    intro construct member rest
    obtain ⟨copy, copyMember, rfl⟩ := List.mem_map.mp member
    rw [List.eq_of_mem_replicate copyMember]
    exact stands rest
  have moves : ∀ offset, move (offset + (before.length + (textOf copies).length)) =
      offset + (before.length + (textOf once).length) := gathered_add _ _ _
  have fixed : ∀ offset < (textOf constructs).length, move offset = offset := by
    intro offset within
    rw [← splits.eq_textOf] at within
    exact gathered_of_lt within _ _
  have unmoved := relocate_ofPieces_place limits fixed source
  have repeatedEq : repeated = ofPieces limits _ _ .empty source :=
    congrArg (fun scan => ofScan limits scan source)
      (ofPattern_append_row splits noneLoose onceStand behind)
  have writtenEq : written = ofPieces limits _ _ .empty source :=
    congrArg (fun scan => ofScan limits scan source)
      (ofPattern_append_row splits noneLoose copiesStand behind)
  rw [repeatedEq, writtenEq]
  cases taken : (ofPieces limits none (place 0 constructs) .empty source).outcome with
  | error fault =>
      -- Neither row is reached.
      have settles := settles_of_ofPieces_error taken
      rw [settles, settles]
      exact ⟨(congrArg Compilation.outcome unmoved).symm, rfl⟩
  | ok template =>
      have fixedTemplate : template.relocate move = template := by
        have sameOutcome := congrArg Compilation.outcome unmoved
        rw [relocate, taken] at sameOutcome
        exact Except.ok.inj sameOutcome
      rw [ofPieces_append taken, ofPieces_append taken, ← map_relocate_halt moves]
      exact outcome_ofPieces_exactly limited held digits fixedTemplate
        (map_gathered_slotsOf before.length _ count part)
        (corresponds_displaced limits moves _) _ _

/-- An exact quantifier is textual repetition.  Behind a pattern that compiles on its own, under
any limits and with any source, and that keeps no opening brace, an atom with an exact quantifier
can be written out that many times instead.  The two compilations leave the same of the source.
Either both succeed, with the same alphabets in the same order, so that they draw the same texts;
or both fail with the same fault, moved by the difference of the two widths. -/
theorem ofPattern_exactly_eq_written {τ : Type} [EntropySource τ] (limits ownLimits : Limits)
    (before behind : String) (own : τ) (template : Template)
    (compiled : (ofPattern ownLimits before own).outcome = .ok template)
    (unbraced : ∀ warning ∈ (ofPattern ownLimits before own).warnings,
      ¬ (warning.kind = .metacharacter ∧ warning.ch = '\x7b'))
    (part : Atom) (stands : ∀ rest, part.StandsBefore rest) (digits : List Char) (count : Nat)
    (numeral : Bounds.IsNumeral digits count) (limited : count ≤ limits.repeatLimit)
    (held : count ≤ limits.capacity) (source : σ) :
    let once := part.text ++ '\x7b' :: digits ++ ['\x7d']
    let copies := (List.replicate count part.text).flatten
    let repeated := ofPattern limits (before ++ String.ofList once ++ behind) source
    let written := ofPattern limits (before ++ String.ofList copies ++ behind) source
    repeated.source = written.source ∧
      ((∃ first second, repeated.outcome = .ok first ∧ written.outcome = .ok second ∧
          first.toList.map Slot.alphabet = second.toList.map Slot.alphabet ∧
          ∀ other : σ, first.draw other = second.draw other) ∨
        ∃ fault, written.outcome = .error fault ∧
          repeated.outcome =
            .error (fault.relocate (gathered before.length copies.length once.length))) := by
  intro once copies repeated written
  obtain ⟨constructs, splits, noneLoose⟩ := exists_splits_of_unbraced compiled unbraced
  obtain ⟨outcomes, sources⟩ := outcome_ofPattern_exactly splits noneLoose stands numeral limited
    held behind.toList source
  have onceEq : textOf [.atom part, .quantifier (.exactly digits count)] = once := by
    simp [textOf, Construct.text, Quantifier.text, Quantifier.exactly, once]
  have copiesEq : textOf ((List.replicate count part).map Construct.atom) = copies :=
    rowText_replicate count part
  have repeatedEq : ofScan limits (Scan.ofPattern (before.toList ++ once ++ behind.toList))
      source = repeated := by
    simp [repeated, ofPattern]
  have writtenEq : ofScan limits (Scan.ofPattern (before.toList ++ copies ++ behind.toList))
      source = written := by
    simp [written, ofPattern]
  rw [onceEq, copiesEq, repeatedEq, writtenEq, String.length_toList] at outcomes
  rw [onceEq, copiesEq, repeatedEq, writtenEq] at sources
  refine ⟨sources, ?_⟩
  cases result : written.outcome with
  | ok second =>
      rw [result] at outcomes
      refine .inl ⟨_, second, outcomes, rfl, ?_, fun other => Template.draw_relocate _ second other⟩
      rw [Template.toList_relocate, List.map_map]
      rfl
  | error fault =>
      rw [result] at outcomes
      exact .inr ⟨fault, rfl, outcomes⟩

/-- A bracket that is repeated thrice in front of a quantifier and a loose brace, and an escape that
is repeated not at all in front of a quantifier, which then has nothing to repeat. -/
theorem ofPattern_thrice_and_never :
    let words : CyclicWords := ⟨0x80000000, [], []⟩
    let bracket : Atom := .bracket "a-c".toList
    let escape : Atom := .escape '\x7d'
    ((ofPattern {} "x?" words).outcome = .ok ⟨#[⟨.single 'x', 0⟩]⟩ ∧
      (∀ warning ∈ (ofPattern {} "x?" words).warnings,
        ¬ (warning.kind = .metacharacter ∧ warning.ch = '\x7b')) ∧
      (∀ rest, bracket.StandsBefore rest) ∧ Bounds.IsNumeral "003".toList 3 ∧
      ∃ first second, (ofPattern {} "x?[a-c]\x7b003\x7d?\x7b" words).outcome = .ok first ∧
        (ofPattern {} "x?[a-c][a-c][a-c]?\x7b" words).outcome = .ok second ∧
        first.toList.map Slot.alphabet = second.toList.map Slot.alphabet ∧
        first.draw words = second.draw words) ∧
    ((∀ rest, escape.StandsBefore rest) ∧ Bounds.IsNumeral (Nat.toDigits 10 0) 0 ∧
      (ofPattern {} "+" words).outcome = .error (.danglingQuantifier 0) ∧
      (ofPattern {} "\\\x7d\x7b0\x7d+" words).outcome = .error (.danglingQuantifier 5)) := by
  intro words bracket escape
  constructor
  · have compiled : (ofPattern {} "x?" words).outcome = .ok ⟨#[⟨.single 'x', 0⟩]⟩ := by
      decide +kernel
    have unbraced : ∀ warning ∈ (ofPattern {} "x?" words).warnings,
        ¬ (warning.kind = .metacharacter ∧ warning.ch = '\x7b') := by decide +kernel
    have stands : ∀ rest, bracket.StandsBefore rest := fun _ => ⟨by decide, by decide⟩
    have numeral : Bounds.IsNumeral "003".toList 3 :=
      Bounds.read?_eq_some_iff_isNumeral.mp (by decide +kernel)
    have law := ofPattern_exactly_eq_written {} {} "x?" "?\x7b" words _ compiled unbraced bracket
      stands "003".toList 3 numeral (by decide) (by decide) words
    have repeatedText :
        "x?" ++ String.ofList (bracket.text ++ '\x7b' :: "003".toList ++ ['\x7d']) ++ "?\x7b" =
          "x?[a-c]\x7b003\x7d?\x7b" := by decide +kernel
    have writtenText :
        "x?" ++ String.ofList (List.replicate 3 bracket.text).flatten ++ "?\x7b" =
          "x?[a-c][a-c][a-c]?\x7b" := by decide +kernel
    simp only [repeatedText, writtenText] at law
    have succeeds : (ofPattern {} "x?[a-c][a-c][a-c]?\x7b" words).outcome.isOk = true := by
      decide +kernel
    refine ⟨compiled, unbraced, stands, numeral, ?_⟩
    rcases law.2 with ⟨first, second, firstOk, secondOk, alphabets, draws⟩ | ⟨fault, failed, _⟩
    · exact ⟨first, second, firstOk, secondOk, alphabets, draws words⟩
    · rw [failed] at succeeds
      cases succeeds
  · have other : '\x7d' ≠ 'x' := by decide
    have stands : ∀ rest, escape.StandsBefore rest := fun _ => other
    have numeral : Bounds.IsNumeral (Nat.toDigits 10 0) 0 := Bounds.isNumeral_toDigits (by decide)
    have law := ofPattern_exactly_eq_written {} {} "" "+" words .empty rfl
      (by decide +kernel) escape stands (Nat.toDigits 10 0) 0 numeral (by decide) (by decide) words
    have repeatedText :
        "" ++ String.ofList (escape.text ++ '\x7b' :: Nat.toDigits 10 0 ++ ['\x7d']) ++ "+" =
          "\\\x7d\x7b0\x7d+" := by decide +kernel
    have writtenText : "" ++ String.ofList (List.replicate 0 escape.text).flatten ++ "+" = "+" := by
      decide +kernel
    simp only [repeatedText, writtenText] at law
    have dangling : (ofPattern {} "+" words).outcome = .error (.danglingQuantifier 0) := by
      decide +kernel
    refine ⟨stands, numeral, dangling, ?_⟩
    rcases law.2 with ⟨_, _, _, succeeded, _⟩ | ⟨fault, failed, moved⟩
    · cases dangling.symm.trans succeeded
    · cases dangling.symm.trans failed
      exact moved

end Compilation

end PatternDraw
