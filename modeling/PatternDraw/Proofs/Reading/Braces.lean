import PatternDraw.Proofs.Reading.Splitting

/-!
# Braces in a pattern

At an opening brace that the reading reaches, the reading depends on the first closing brace
behind it.  Without one the opening brace is a literal.  With one the text up to it is the body
of a quantifier, or a fault, and reading goes on just behind it.
-/

namespace PatternDraw.Scan

/-- The result of a reading that starts with more constructs. -/
def prependAll (pieces : List Piece) (scan : Scan) : Scan :=
  { scan with pieces := pieces ++ scan.pieces }

/-- The reading of a pattern goes on from every place that it reaches. -/
theorem ofPattern_of_reaches {pattern : List Char} {constructs : List Construct} {offset : Nat}
    (reaches : Reaches pattern constructs offset) :
    ofPattern pattern =
      prependAll (place 0 constructs)
        (readFrom closesInRest .ready offset (pattern.drop offset)) := by
  rw [ofPattern_eq_readFrom, readFrom_of_splitsUpTo reaches.splits, Nat.zero_add,
    ← reaches.offset_eq]
  rfl

/-- Behind every character of a pattern, the offset of the last closing brace leads to the
reading that a search leads to. -/
theorem readFrom_drop_lastClose? {pattern : List Char} {offset : Nat}
    (within : offset ≤ pattern.length) :
    readFrom (closesBehind (lastClose? pattern)) .ready offset (pattern.drop offset) =
      readFrom closesInRest .ready offset (pattern.drop offset) := by
  have read := readFrom_lastClose? (pattern.take offset) (pattern.drop offset) .ready
  rwa [List.take_append_drop, List.length_take, Nat.min_eq_left within] at read

/-- A brace that closes is read with what is between it and the first closing brace, and reading
goes on behind that. -/
theorem readFrom_closedBraces {body : List Char} (unclosed : '\x7d' ∉ body) (start : Nat)
    (behind : List Char) :
    readFrom closesInRest .ready start ('\x7b' :: body ++ '\x7d' :: behind) =
      match Bounds.read body with
      | .ok bounds =>
          prepend ⟨start, .quantifier (.braces body bounds)⟩
            (readFrom closesInRest .ready (start + body.length + 2) behind)
      | .error (.foreign index ch) => ⟨[], some ⟨[], .invalidRepeatBody (start + 1 + index) ch⟩⟩
      | .error .malformed => ⟨[], some ⟨[], .malformedRange start (String.ofList body)⟩⟩ := by
  have closes : step closesInRest (start + 1 + body.length) '\x7d' behind
      (.braces start body.reverse) = closeBraces start body := by
    simp [step]
  have onward : start + 1 + body.length + 1 = start + body.length + 2 := by omega
  rw [readFrom_braces unclosed, readFrom, closes, closeBraces, onward]
  rcases Bounds.read body with ⟨⟨index, ch⟩ | _⟩ | bounds
  · rfl
  · rfl
  · rfl

/-- A loose brace that the reading reaches is a literal, and reading goes on with the next
character. -/
theorem ofPattern_of_looseBrace {pattern rest : List Char} {constructs : List Construct}
    {offset : Nat} (reaches : Reaches pattern constructs offset)
    (braceHere : pattern.drop offset = '\x7b' :: rest) (unclosed : '\x7d' ∉ rest) :
    ofPattern pattern =
      prependAll (place 0 constructs) (prepend ⟨offset, looseBrace⟩
        (readFrom (closesBehind (lastClose? pattern)) .ready (offset + 1) rest)) := by
  have stands : looseBrace.StandsBefore rest := .inr ⟨rfl, unclosed⟩
  have restHere : pattern.drop (offset + 1) = rest := by
    rw [← List.drop_drop, braceHere]
    rfl
  have within : offset + 1 ≤ pattern.length := by
    have lengthEq := congrArg List.length braceHere
    rw [List.length_drop, List.length_cons] at lengthEq
    omega
  have searched := readFrom_drop_lastClose? within
  rw [restHere] at searched
  rw [ofPattern_of_reaches reaches, braceHere, searched]
  exact congrArg (prependAll (place 0 constructs)) (readFrom_construct stands offset)

/-- A closed brace that the reading reaches has the text up to the first closing brace for its
body, and reading goes on behind that. -/
theorem ofPattern_of_closedBraces {pattern body behind : List Char} {constructs : List Construct}
    {offset : Nat} (reaches : Reaches pattern constructs offset)
    (bracesHere : pattern.drop offset = '\x7b' :: body ++ '\x7d' :: behind)
    (unclosed : '\x7d' ∉ body) :
    ofPattern pattern =
      match Bounds.read body with
      | .ok bounds =>
          prependAll (place 0 constructs) (prepend ⟨offset, .quantifier (.braces body bounds)⟩
            (readFrom (closesBehind (lastClose? pattern)) .ready (offset + body.length + 2)
              behind))
      | .error (.foreign index ch) =>
          ⟨place 0 constructs, some ⟨[], .invalidRepeatBody (offset + 1 + index) ch⟩⟩
      | .error .malformed =>
          ⟨place 0 constructs, some ⟨[], .malformedRange offset (String.ofList body)⟩⟩ := by
  have behindHere : pattern.drop (offset + body.length + 2) = behind := by
    rw [Nat.add_assoc, ← List.drop_drop, bracesHere]
    simp
  have within : offset + body.length + 2 ≤ pattern.length := by
    have lengthEq := congrArg List.length bracesHere
    simp only [List.length_drop, List.length_cons, List.length_append] at lengthEq
    omega
  have searched := readFrom_drop_lastClose? within
  rw [behindHere] at searched
  rw [ofPattern_of_reaches reaches, bracesHere, readFrom_closedBraces unclosed, searched]
  rcases Bounds.read body with ⟨⟨index, ch⟩ | _⟩ | bounds
  · simp [prependAll]
  · simp [prependAll]
  · rfl

end PatternDraw.Scan
