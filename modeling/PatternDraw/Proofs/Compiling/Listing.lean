import PatternDraw.Proofs.Compiling.Concatenation
import PatternDraw.Proofs.Reading.BracketText

/-!
# Brackets in a pattern

Behind a pattern that compiles, a bracket adds one slot: the members to which reading its text from
left to right leads, in that order.  The bracket ends at the first closing one, whatever it holds
and whatever follows it.
-/

namespace PatternDraw

namespace Compilation

variable {σ : Type} [EntropySource σ]

/-- Behind a pattern that compiles and keeps no opening brace, a bracket adds the slot of its
alphabet, and what follows it is compiled behind that. -/
theorem ofPattern_append_bracket_append {limits : Limits} {before body : String} {source : σ}
    {template : Template} (compiled : (ofPattern limits before source).outcome = .ok template)
    (unbraced : ∀ warning ∈ (ofPattern limits before source).warnings,
      ¬ (warning.kind = .metacharacter ∧ warning.ch = '\x7b'))
    (filled : body.toList ≠ []) (unclosed : ']' ∉ body.toList) (behind : String) :
    let scan := Scan.ofPattern behind.toList
    let distance := before.length + body.length + 2
    ofPattern limits (before ++ "[" ++ body ++ "]" ++ behind) source =
      prependWarnings ((ofPattern limits before source).warnings ++
          Bracket.warnings (before.length + 1) body.toList)
        (ofPieces limits (scan.halt.map (Halt.displace distance))
          (scan.pieces.map (Piece.displace distance))
          (template.push ⟨Bracket.alphabet body.toList, before.length⟩)
          (ofPattern limits before source).source) := by
  intro scan distance
  have stands : (Construct.atom (.bracket body.toList)).StandsBefore behind.toList :=
    ⟨filled, unclosed⟩
  have read := Scan.readFrom_construct stands before.length
  have width : before.length + (Construct.atom (.bracket body.toList)).text.length = distance := by
    simp only [Construct.text, Atom.text, List.length_append, List.length_cons, List.length_nil,
      String.length_toList, distance]
    omega
  have bracketed : ("[" ++ body ++ "]" ++ behind).toList =
      (Construct.atom (.bracket body.toList)).text ++ behind.toList := by
    simp [Construct.text, Atom.text]
  have joined : before ++ "[" ++ body ++ "]" ++ behind =
      before ++ ("[" ++ body ++ "]" ++ behind) := by
    simp only [String.append_assoc]
  have apart : KeptApart (ofPattern limits before source).warnings
      ("[" ++ body ++ "]" ++ behind).toList := .inl unbraced
  rw [joined, ofPattern_append_reading compiled apart, bracketed, read, width,
    Scan.readFrom_eq_displace, ← prependWarnings_append]
  rfl

/-- Brackets are the expansion of their text.  Behind a pattern that compiles and keeps no opening
brace, a bracket with a text that is not empty and holds no closing bracket adds one slot, without
a draw.  Its members and its warnings are those to which reading the text leads, and reading it
leads to no others.  The bracket ends at the first closing one, so that what follows is compiled
behind it on its own.  Without a dash every character of the text is a member; no member is a
surrogate; and behind a range that is not reversed the last member is the end of the range, from
which a further range goes on. -/
theorem ofPattern_append_bracket (limits : Limits) (before body : String) (source : σ)
    (template : Template) (compiled : (ofPattern limits before source).outcome = .ok template)
    (unbraced : ∀ warning ∈ (ofPattern limits before source).warnings,
      ¬ (warning.kind = .metacharacter ∧ warning.ch = '\x7b'))
    (filled : body ≠ "") (unclosed : ']' ∉ body.toList) :
    let alone := ofPattern limits before source
    let expands := Bracket.Expands (before.length + 1) [] body.toList
    ∃ members warnings, expands members warnings ∧
      (∀ others otherWarnings, expands others otherWarnings →
        others = members ∧ otherWarnings = warnings) ∧
      ofPattern limits (before ++ "[" ++ body ++ "]") source =
        ⟨.ok (template.push ⟨.ofList members, before.length⟩), alone.warnings ++ warnings,
          alone.source⟩ ∧
      (∀ behind : String,
        let scan := Scan.ofPattern behind.toList
        let distance := before.length + body.length + 2
        ofPattern limits (before ++ "[" ++ body ++ "]" ++ behind) source =
          prependWarnings (alone.warnings ++ warnings)
            (ofPieces limits (scan.halt.map (Halt.displace distance))
              (scan.pieces.map (Piece.displace distance))
              (template.push ⟨.ofList members, before.length⟩) alone.source)) ∧
      ('-' ∉ body.toList → members = body.toList) ∧
      (∀ ch ∈ members, ch.toNat < 0xD800 ∨ 0xDFFF < ch.toNat) ∧
      ∀ earlier start last run, Bracket.IsRun start last run → start ≤ last →
        ∃ more, earlier ++ [start] ++ run = more ++ [last] := by
  intro alone expands
  have filledList : body.toList ≠ [] := mt String.toList_eq_nil_iff.mp filled
  have read := Bracket.expands_alphabet (before.length + 1) body.toList
  have listed : Alphabet.ofList (Bracket.alphabet body.toList).toList =
      Bracket.alphabet body.toList := Alphabet.toList_injective (Alphabet.toList_ofList _)
  have followed := ofPattern_append_bracket_append compiled unbraced filledList unclosed
  refine ⟨_, _, read, fun others otherWarnings => read.unique, ?_, ?_, read.eq_append, ?_, ?_⟩
  · have ended := followed ""
    rw [String.append_empty] at ended
    rw [listed, ended]
    -- Behind the bracket there is nothing, so the template is complete there.
    exact congrArg (fun found => Compilation.mk (.ok _) found alone.source) (List.append_nil _)
  · intro behind
    rw [listed]
    exact followed behind
  · intro ch _
    rcases ch.valid with low | ⟨high, _⟩
    · exact .inl low
    · exact .inr high
  · intro earlier start last run isRun ordered
    have ended := isRun.exists_append_eq earlier
    rwa [if_pos ordered] at ended

/-- A bracket whose ranges go on from each other, of which the last one is reversed, between marks
that stand for themselves. -/
theorem ofPattern_chainedRanges :
    let words : CyclicWords := ⟨7, [], []⟩
    let text := "+a-c-e--z-"
    let compilation := ofPattern {} ("x(" ++ "[" ++ text ++ "]") words
    (ofPattern {} "x(" words).outcome = .ok ⟨#[⟨.single 'x', 0⟩, ⟨.single '(', 1⟩]⟩ ∧
      (∀ warning ∈ (ofPattern {} "x(" words).warnings,
        ¬ (warning.kind = .metacharacter ∧ warning.ch = '\x7b')) ∧
      text ≠ "" ∧ ']' ∉ text.toList ∧
      compilation.outcome =
        .ok ⟨#[⟨.single 'x', 0⟩, ⟨.single '(', 1⟩, ⟨.ofString "+abcdez-", 2⟩]⟩ ∧
      compilation.warnings = [⟨.metacharacter, '(', 1⟩, ⟨.bracketLiteral, '+', 3⟩,
        ⟨.reversedRange, '-', 10⟩, ⟨.bracketLiteral, '-', 12⟩] ∧
      compilation.source = words := by
  intro words text compilation
  have compiled : (ofPattern {} "x(" words).outcome =
      .ok ⟨#[⟨.single 'x', 0⟩, ⟨.single '(', 1⟩]⟩ := by decide +kernel
  have unbraced : ∀ warning ∈ (ofPattern {} "x(" words).warnings,
      ¬ (warning.kind = .metacharacter ∧ warning.ch = '\x7b') := by decide +kernel
  have filled : text ≠ "" := by decide
  have unclosed : ']' ∉ text.toList := by decide
  obtain ⟨members, warnings, _, unique, compiledEq, _⟩ :=
    ofPattern_append_bracket {} "x(" text words _ compiled unbraced filled unclosed
  obtain ⟨membersEq, warningsEq⟩ := unique _ _ (Bracket.expands_alphabet 3 text.toList)
  rw [← membersEq, ← warningsEq] at compiledEq
  refine ⟨compiled, unbraced, filled, unclosed, ?_⟩
  unfold compilation
  rw [compiledEq]
  exact ⟨by decide +kernel, by decide +kernel, by decide +kernel⟩

end Compilation

end PatternDraw
