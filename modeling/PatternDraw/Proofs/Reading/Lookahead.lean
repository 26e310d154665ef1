import PatternDraw.Pattern.Scan

/-!
# Looking for a closing brace

The reader decides from one offset, found before reading starts, whether an opening brace
starts a quantifier.  It decides as if it searched the unread text for a closing brace, so what
is read from a place in a pattern depends on the text from there on and on nothing else.
-/

namespace PatternDraw.Scan

/-- An opening brace starts a quantifier if a closing brace occurs in the text behind it. -/
def closesInRest : BraceRule :=
  fun _ rest => rest.contains '\x7d'

/-! ## The last closing brace -/

theorem lastCloseFrom_append (found : Option Nat) (offset : Nat) (first second : List Char) :
    lastCloseFrom found offset (first ++ second) =
      lastCloseFrom (lastCloseFrom found offset first) (offset + first.length) second := by
  induction first generalizing found offset with
  | nil => rfl
  | cons ch rest ih =>
      simp only [List.cons_append, lastCloseFrom, List.length_cons]
      rw [ih, Nat.add_right_comm, Nat.add_assoc]

/-- A closing brace is found before the end of the text. -/
theorem lt_of_mem_lastCloseFrom {found : Option Nat} {offset : Nat} {text : List Char}
    (foundBefore : ∀ close ∈ found, close < offset) :
    ∀ close ∈ lastCloseFrom found offset text, close < offset + text.length := by
  induction text generalizing found offset with
  | nil => simpa [lastCloseFrom] using foundBefore
  | cons ch rest ih =>
      intro close member
      have foundHere : ∀ close ∈ (if ch = '\x7d' then some offset else found),
          close < offset + 1 := by
        intro close member
        split at member
        · cases member
          exact Nat.lt_succ_self offset
        · exact Nat.lt_succ_of_lt (foundBefore close member)
      have restBound := ih foundHere close member
      simp only [List.length_cons]
      omega

/-- From a place before the text, a closing brace stands behind that place if it was found
before or occurs in the text. -/
theorem any_lt_lastCloseFrom {found : Option Nat} {place offset : Nat} {text : List Char}
    (before : place < offset) :
    (lastCloseFrom found offset text).any (fun close => decide (place < close)) =
      (found.any (fun close => decide (place < close)) || text.contains '\x7d') := by
  induction text generalizing found offset with
  | nil => simp [lastCloseFrom]
  | cons ch rest ih =>
      rw [lastCloseFrom, ih (Nat.lt_succ_of_lt before)]
      by_cases closing : ch = '\x7d'
      · simp [closing, before]
      · simp [closing, Ne.symm closing]

/-- At every place of a pattern the offset of the last closing brace decides as a search. -/
theorem closesBehind_lastClose? (before : List Char) (ch : Char) (rest : List Char) :
    closesBehind (lastClose? (before ++ ch :: rest)) before.length rest =
      closesInRest before.length rest := by
  have noneFound : ∀ close ∈ (none : Option Nat), close < 0 := by simp
  have foundBefore : ∀ close ∈ lastCloseFrom none 0 before, close < before.length := by
    simpa using @lt_of_mem_lastCloseFrom none 0 before noneFound
  have nothingBehind :
      (if ch = '\x7d' then some before.length else lastCloseFrom none 0 before).any
        (fun close => decide (before.length < close)) = false := by
    split
    · simp
    · cases found : lastCloseFrom none 0 before with
      | none => rfl
      | some close =>
          have closeBefore := foundBefore close (by simp [found])
          simp [Nat.le_of_lt closeBefore]
  rw [closesBehind, lastClose?, lastCloseFrom_append, Nat.zero_add, lastCloseFrom,
    any_lt_lastCloseFrom (Nat.lt_succ_self before.length), nothingBehind]
  rfl

/-! ## Reading -/

theorem step_congr {first second : BraceRule} {offset : Nat} {rest : List Char}
    (agree : first offset rest = second offset rest) (ch : Char) (mode : Mode) :
    step first offset ch rest mode = step second offset ch rest mode := by
  cases mode with
  | ready => simp only [step, openStep, agree]
  | _ => rfl

/-- From any place on, a pattern is read as if every opening brace searched the unread text. -/
theorem readFrom_lastClose? (before text : List Char) (mode : Mode) :
    readFrom (closesBehind (lastClose? (before ++ text))) mode before.length text =
      readFrom closesInRest mode before.length text := by
  induction text generalizing before mode with
  | nil => rfl
  | cons ch rest ih =>
      have onward : ∀ mode : Mode,
          readFrom (closesBehind (lastClose? (before ++ ch :: rest))) mode
              (before.length + 1) rest =
            readFrom closesInRest mode (before.length + 1) rest := by
        intro mode
        simpa using ih (before ++ [ch]) mode
      simp only [readFrom, step_congr (closesBehind_lastClose? before ch rest), onward]

/-- A pattern is read as if every opening brace searched the unread text. -/
theorem ofPattern_eq_readFrom (pattern : List Char) :
    ofPattern pattern = readFrom closesInRest .ready 0 pattern :=
  readFrom_lastClose? [] pattern .ready

end PatternDraw.Scan
