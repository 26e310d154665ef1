import PatternDraw.Entropy.Cyclic
import PatternDraw.Pattern.Compilation
import PatternDraw.Proofs.Reading.Braces

/-!
# Compiling with a search for every closing brace

A simpler compiler holds the unread text and nothing else: at every opening brace it searches
that text for a closing one, it cuts a construct off the front and takes it at once, and it
counts offsets from what is left.  It comes to the same result as the compiler that looks once
for the last closing brace and keeps count of the characters it has read.
-/

namespace PatternDraw

/-! ## Cutting a text -/

/-- The text before the first closing character, and the text behind it. -/
def cutAt? (closing : Char) : List Char → Option (List Char × List Char)
  | [] => none
  | ch :: rest =>
      if ch = closing then some ([], rest)
      else (cutAt? closing rest).map fun (body, behind) => (ch :: body, behind)

theorem cutAt?_eq_none_iff {closing : Char} {text : List Char} :
    cutAt? closing text = none ↔ closing ∉ text := by
  induction text with
  | nil => simp [cutAt?]
  | cons ch rest ih =>
      by_cases here : ch = closing
      · simp [cutAt?, here]
      · simp [cutAt?, here, ih, Ne.symm here]

/-- A text is cut at the first closing character. -/
theorem cutAt?_append {closing : Char} {body : List Char} (unclosed : closing ∉ body)
    (behind : List Char) : cutAt? closing (body ++ closing :: behind) = some (body, behind) := by
  induction body with
  | nil => simp [cutAt?]
  | cons ch rest ih =>
      have other : ch ≠ closing := fun equal => unclosed (equal ▸ List.mem_cons_self)
      have restUnclosed : closing ∉ rest := fun member => unclosed (List.mem_cons_of_mem _ member)
      simp [cutAt?, other, ih restUnclosed]

/-! ## The searching compiler -/

namespace Searching

/-- The construct that an escape at `offset` starts, and the text behind it. -/
def escapeAt (offset : Nat) : List Char → Except Halt (Construct × List Char)
  | [] => .error ⟨[], .unterminatedEscape offset⟩
  | ch :: rest =>
      if ch = 'x' then
        match rest with
        | high :: low :: behind =>
            if (hexDigit? high).isSome ∧ (hexDigit? low).isSome then
              .ok (.atom (.hexEscape high low), behind)
            else .error ⟨[], .invalidHexEscape offset (String.ofList [high, low])⟩
        | _ => .error ⟨[], .unterminatedEscape offset⟩
      else .ok (.atom (.escape ch), rest)

/-- The construct that an opening bracket at `offset` starts, and the text behind it. -/
def bracketAt (offset : Nat) (rest : List Char) : Except Halt (Construct × List Char) :=
  match cutAt? ']' rest with
  | none => .error ⟨Bracket.warnings (offset + 1) rest, .unmatchedBracket offset⟩
  | some ([], _) => .error ⟨[], .emptyBracket offset⟩
  | some (body, behind) => .ok (.atom (.bracket body), behind)

/-- The construct that an opening brace at `offset` starts, and the text behind it.  The brace
stands for itself if no closing one is found, and otherwise all before the first one is its
body. -/
def braceAt (offset : Nat) (rest : List Char) : Except Halt (Construct × List Char) :=
  match cutAt? '\x7d' rest with
  | none => .ok (.atom (.literal '\x7b'), rest)
  | some (body, behind) =>
      match Bounds.read body with
      | .ok bounds => .ok (.quantifier (.braces body bounds), behind)
      | .error (.foreign index ch) => .error ⟨[], .invalidRepeatBody (offset + 1 + index) ch⟩
      | .error .malformed => .error ⟨[], .malformedRange offset (String.ofList body)⟩

/-- The construct that starts with the character at `offset`, and the text behind it. -/
def constructAt (offset : Nat) (ch : Char) (rest : List Char) :
    Except Halt (Construct × List Char) :=
  match Opener.ofChar ch with
  | .literal ch => .ok (.atom (.literal ch), rest)
  | .dot => .ok (.atom .dot, rest)
  | .escape => escapeAt offset rest
  | .bracket => bracketAt offset rest
  | .star => .ok (.quantifier .star, rest)
  | .plus => .ok (.quantifier .plus, rest)
  | .question => .ok (.quantifier .question, rest)
  | .brace => braceAt offset rest

/-! ### Constructs and obstructions -/

theorem bracketAt_append {body : List Char} (filled : body ≠ []) (unclosed : ']' ∉ body)
    (offset : Nat) (behind : List Char) :
    bracketAt offset (body ++ ']' :: behind) = .ok (.atom (.bracket body), behind) := by
  obtain ⟨first, more, rfl⟩ := List.exists_cons_of_ne_nil filled
  rw [bracketAt, cutAt?_append unclosed]

/-- Braces are read from the text between them. -/
theorem braceAt_append {body : List Char} (unclosed : '\x7d' ∉ body) (offset : Nat)
    (behind : List Char) :
    braceAt offset (body ++ '\x7d' :: behind) =
      match Bounds.read body with
      | .ok bounds => .ok (.quantifier (.braces body bounds), behind)
      | .error (.foreign index ch) => .error ⟨[], .invalidRepeatBody (offset + 1 + index) ch⟩
      | .error .malformed => .error ⟨[], .malformedRange offset (String.ofList body)⟩ := by
  rw [braceAt, cutAt?_append unclosed]

/-- A construct that stands before a text is taken off it. -/
theorem constructAt_of_stands {construct : Construct} {ch : Char} {rest behind : List Char}
    (textEq : ch :: rest = construct.text ++ behind) (stands : construct.StandsBefore behind)
    (offset : Nat) : constructAt offset ch rest = .ok (construct, behind) := by
  cases construct with
  | atom part =>
      cases part with
      | literal plain =>
          obtain ⟨rfl, rfl⟩ := List.cons.inj textEq
          rcases stands with notOpener | ⟨rfl, unclosed⟩
          · simp [constructAt, Scan.ofChar_of_not_mem_openers notOpener]
          · simp [constructAt, Opener.ofChar, braceAt, cutAt?_eq_none_iff.mpr unclosed]
      | dot =>
          obtain ⟨rfl, rfl⟩ := List.cons.inj textEq
          rfl
      | hexEscape high low =>
          obtain ⟨rfl, rfl⟩ := List.cons.inj textEq
          exact if_pos stands
      | escape escaped =>
          obtain ⟨rfl, rfl⟩ := List.cons.inj textEq
          exact if_neg stands
      | bracket body =>
          have opens : ch = '[' ∧ rest = body ++ ']' :: behind := by
            simpa [Construct.text, Atom.text] using textEq
          obtain ⟨rfl, rfl⟩ := opens
          exact bracketAt_append stands.1 stands.2 offset behind
  | quantifier part =>
      cases part with
      | star =>
          obtain ⟨rfl, rfl⟩ := List.cons.inj textEq
          rfl
      | plus =>
          obtain ⟨rfl, rfl⟩ := List.cons.inj textEq
          rfl
      | question =>
          obtain ⟨rfl, rfl⟩ := List.cons.inj textEq
          rfl
      | braces body bounds =>
          have opens : ch = '\x7b' ∧ rest = body ++ '\x7d' :: behind := by
            simpa [Construct.text, Quantifier.text] using textEq
          obtain ⟨rfl, rfl⟩ := opens
          have unclosed := Bounds.not_mem_of_isBodyChar (Bounds.Denoted.isBodyChar stands)
          refine (braceAt_append unclosed offset behind).trans ?_
          rw [Bounds.read_eq_ok_iff.mpr stands]

/-- What obstructs a text is found. -/
theorem constructAt_of_obstructs {start : Nat} {ch : Char} {rest : List Char} {halt : Halt}
    (obstructs : Scan.Obstructs start (ch :: rest) halt) :
    constructAt start ch rest = .error halt := by
  generalize textEq : ch :: rest = text at obstructs
  cases obstructs with
  | escape short =>
      obtain ⟨rfl, rfl⟩ := List.cons.inj textEq
      rcases short with rfl | rfl | ⟨ch, rfl⟩
      · rfl
      · rfl
      · rfl
  | hexEscape misspelled =>
      obtain ⟨rfl, rfl⟩ := List.cons.inj textEq
      exact if_neg misspelled
  | openBracket unclosed =>
      obtain ⟨rfl, rfl⟩ := List.cons.inj textEq
      simp [constructAt, Opener.ofChar, bracketAt, cutAt?_eq_none_iff.mpr unclosed]
  | emptyBracket =>
      obtain ⟨rfl, rfl⟩ := List.cons.inj textEq
      rfl
  | foreignBody allowed foreign unclosed =>
      rw [List.cons_append] at textEq
      obtain ⟨rfl, rfl⟩ := List.cons.inj textEq
      refine (braceAt_append unclosed start _).trans ?_
      rw [Bounds.read_append_cons_of_foreign allowed foreign]
  | meaninglessBody allowed meaningless =>
      rw [List.cons_append] at textEq
      obtain ⟨rfl, rfl⟩ := List.cons.inj textEq
      refine (braceAt_append (Bounds.not_mem_of_isBodyChar allowed) start _).trans ?_
      rw [Bounds.read_of_forall_not_denoted allowed meaningless]

/-- What is taken off a text is a construct that stands before the rest of it. -/
theorem stands_of_constructAt {offset : Nat} {ch : Char} {rest behind : List Char}
    {construct : Construct} (taken : constructAt offset ch rest = .ok (construct, behind)) :
    ch :: rest = construct.text ++ behind ∧ construct.StandsBefore behind := by
  rcases Scan.construct_or_obstructed ch rest with ⟨first, more, textEq, stands⟩ | obstructed
  · rw [constructAt_of_stands textEq stands] at taken
    cases taken
    exact ⟨textEq, stands⟩
  · obtain ⟨halt, obstructs⟩ := obstructed offset
    rw [constructAt_of_obstructs obstructs] at taken
    cases taken

theorem length_lt_of_constructAt {offset : Nat} {ch : Char} {rest behind : List Char}
    {construct : Construct} (taken : constructAt offset ch rest = .ok (construct, behind)) :
    behind.length < (ch :: rest).length := by
  rw [(stands_of_constructAt taken).1, List.length_append]
  exact Nat.lt_add_of_pos_left construct.length_text_pos

/-! ### Compiling -/

variable {σ : Type} [EntropySource σ]

/-- Compile the unread rest of a pattern of `total` characters. -/
def compileFrom (limits : Limits) (total : Nat) (text : List Char) (template : Template)
    (source : σ) : Compilation σ :=
  match text with
  | [] => ⟨.ok template, [], source⟩
  | ch :: rest =>
      let offset := total - (ch :: rest).length
      match _ : constructAt offset ch rest with
      | .error halt => ⟨.error halt.fault, halt.warnings, source⟩
      | .ok (construct, behind) =>
          match Compilation.applyPiece limits ⟨offset, construct⟩ template source with
          | (.ok template, source) =>
              Compilation.prependWarnings (construct.warnings offset)
                (compileFrom limits total behind template source)
          | (.error fault, source) => ⟨.error fault, construct.warnings offset, source⟩
termination_by text.length
decreasing_by exact length_lt_of_constructAt ‹_›

/-- Compile a pattern with a search at every opening brace. -/
def compile (limits : Limits) (pattern : String) (source : σ) : Compilation σ :=
  compileFrom limits pattern.toList.length pattern.toList .empty source

theorem compileFrom_of_ok {total : Nat} {ch : Char} {rest behind : List Char}
    {construct : Construct}
    (taken : constructAt (total - (ch :: rest).length) ch rest = .ok (construct, behind))
    (limits : Limits) (template : Template) (source : σ) :
    compileFrom limits total (ch :: rest) template source =
      match Compilation.applyPiece limits ⟨total - (ch :: rest).length, construct⟩ template
          source with
      | (.ok template, source) =>
          Compilation.prependWarnings (construct.warnings (total - (ch :: rest).length))
            (compileFrom limits total behind template source)
      | (.error fault, source) =>
          ⟨.error fault, construct.warnings (total - (ch :: rest).length), source⟩ := by
  rw [compileFrom]
  split
  · rename_i failed
    rw [taken] at failed
    cases failed
  · rename_i found
    rw [taken] at found
    cases found
    rfl

theorem compileFrom_of_error {total : Nat} {ch : Char} {rest : List Char} {halt : Halt}
    (failed : constructAt (total - (ch :: rest).length) ch rest = .error halt)
    (limits : Limits) (template : Template) (source : σ) :
    compileFrom limits total (ch :: rest) template source =
      ⟨.error halt.fault, halt.warnings, source⟩ := by
  rw [compileFrom]
  split
  · rename_i found
    rw [failed] at found
    cases found
    rfl
  · rename_i taken
    rw [failed] at taken
    cases taken

/-- Taking each construct as soon as it is found comes to the same as reading all of them first,
and the offset counted from what is left is that of the next character. -/
theorem compileFrom_eq_ofPieces (limits : Limits) (offset : Nat) (text : List Char)
    (template : Template) (source : σ) :
    compileFrom limits (offset + text.length) text template source =
      Compilation.ofPieces limits (Scan.readFrom Scan.closesInRest .ready offset text).halt
        (Scan.readFrom Scan.closesInRest .ready offset text).pieces template source := by
  match text with
  | [] =>
      rw [compileFrom]
      rfl
  | ch :: rest =>
      have counted : offset + (ch :: rest).length - (ch :: rest).length = offset :=
        Nat.add_sub_cancel offset _
      rcases Scan.construct_or_obstructed ch rest with
        ⟨construct, behind, textEq, stands⟩ | obstructed
      · have taken := constructAt_of_stands textEq stands offset
        have shorter := length_lt_of_constructAt taken
        have total : offset + (ch :: rest).length =
            offset + construct.text.length + behind.length := by
          rw [textEq, List.length_append, Nat.add_assoc]
        rw [← counted] at taken
        rw [compileFrom_of_ok taken, counted, total, textEq, Scan.readFrom_construct stands]
        simp only [Scan.prepend, Compilation.ofPieces]
        rcases Compilation.applyPiece limits ⟨offset, construct⟩ template source with
          ⟨fault | next, after⟩
        · rfl
        · have onward := compileFrom_eq_ofPieces limits (offset + construct.text.length) behind
            next after
          simp only [onward, Piece.warnings]
      · obtain ⟨halt, obstructs⟩ := obstructed offset
        have failed := constructAt_of_obstructs obstructs
        rw [← counted] at failed
        rw [compileFrom_of_error failed, Scan.readFrom_of_obstructs obstructs]
        rfl
termination_by text.length
decreasing_by exact shorter

theorem ofPattern_eq_compile (limits : Limits) (pattern : String) (source : σ) :
    Compilation.ofPattern limits pattern source = compile limits pattern source := by
  have same := compileFrom_eq_ofPieces limits 0 pattern.toList .empty source
  rw [Nat.zero_add] at same
  rw [Compilation.ofPattern, Compilation.ofScan, Scan.ofPattern_eq_readFrom, compile, same]

/-- A pattern is compiled as by the compiler that searches the unread text for a closing brace
at every opening one: with the same template, warnings, fault and draws.  An opening brace that
the reading reaches stands for itself, with a warning, if no closing brace comes behind it.  If
one does, the text up to the first of them is the body, and reading goes on just behind it. -/
theorem ofPattern_searches (limits : Limits) (pattern : String) (source : σ) :
    Compilation.ofPattern limits pattern source = compile limits pattern source ∧
    ∀ constructs offset rest, Reaches pattern.toList constructs offset →
      pattern.toList.drop offset = '\x7b' :: rest →
      ('\x7d' ∉ rest →
        looseBrace.warnings offset = [⟨.metacharacter, '\x7b', offset⟩] ∧
        Scan.ofPattern pattern.toList =
          Scan.prependAll (place 0 constructs) (Scan.prepend ⟨offset, looseBrace⟩
            (Scan.readFrom (Scan.closesBehind (Scan.lastClose? pattern.toList)) .ready
              (offset + 1) rest))) ∧
      ∀ body behind, rest = body ++ '\x7d' :: behind → '\x7d' ∉ body →
        Scan.ofPattern pattern.toList =
          match Bounds.read body with
          | .ok bounds =>
              Scan.prependAll (place 0 constructs)
                (Scan.prepend ⟨offset, .quantifier (.braces body bounds)⟩
                  (Scan.readFrom (Scan.closesBehind (Scan.lastClose? pattern.toList)) .ready
                    (offset + body.length + 2) behind))
          | .error (.foreign index ch) =>
              ⟨place 0 constructs, some ⟨[], .invalidRepeatBody (offset + 1 + index) ch⟩⟩
          | .error .malformed =>
              ⟨place 0 constructs, some ⟨[], .malformedRange offset (String.ofList body)⟩⟩ := by
  refine ⟨ofPattern_eq_compile limits pattern source, ?_⟩
  intro constructs offset rest reaches braceHere
  constructor
  · intro unclosed
    exact ⟨rfl, Scan.ofPattern_of_looseBrace reaches braceHere unclosed⟩
  · rintro body behind rfl unclosed
    exact Scan.ofPattern_of_closedBraces reaches braceHere unclosed

/-- A closing brace counts wherever it stands behind the opening one, also within a bracket. -/
example : (Compilation.ofPattern {} "\x7b[\x7d]" (⟨0, [], []⟩ : CyclicWords)).outcome =
    .error (.invalidRepeatBody 1 '[') := by
  decide +kernel

end Searching
end PatternDraw
