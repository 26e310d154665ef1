import PatternDraw.Proofs.Letters.Ordering

/-!
# Letters are bound as they were set last

A table comes about by setting letters one after the other, to alphabets that may be empty.
What a letter is bound to in the end is decided by the last time that it was set, and by the
table at the start if it was never set.  Nothing else about the history can be seen, so tables
whose letters were set last to the same alphabets are equal.
-/

namespace PatternDraw.LetterTable

/-- Set letters in order: what each of them was bound to before, and the table in the end. -/
def setAll (table : LetterTable) : List (Char × Alphabet) → List (Option Alphabet) × LetterTable
  | [] => ([], table)
  | (letter, alphabet) :: rest =>
      let (before, table) := table.set letter alphabet
      let (more, table) := table.setAll rest
      (before :: more, table)

/-- The alphabet to which a letter was set last. -/
def lastSet? (history : List (Char × Alphabet)) (letter : Char) : Option Alphabet :=
  history.reverse.lookup letter

/-- What a letter is bound to after a history of settings: the alphabet to which it was set
last, unless this is empty, or else what it was bound to at the start. -/
def boundAfter (start : LetterTable) (history : List (Char × Alphabet)) (letter : Char) :
    Option Alphabet :=
  match lastSet? history letter with
  | some alphabet => kept? alphabet
  | none => start.get? letter

/-- The settings of one letter. -/
def settingsOf (history : List (Char × Alphabet)) (letter : Char) : List (Char × Alphabet) :=
  history.filter fun setting => setting.1 == letter

/-! ## The table in the end -/

theorem reached_of_usual {start : LetterTable} (usual : start = .empty ∨ start = .standard) :
    start.Reached := by
  rcases usual with bare | standard
  · rw [bare]
    exact .empty
  · rw [standard]
    exact .standard

theorem Reached.setAll {table : LetterTable} (reached : table.Reached)
    (history : List (Char × Alphabet)) : (table.setAll history).2.Reached := by
  induction history generalizing table with
  | nil => exact reached
  | cons setting rest ih => exact ih (reached.set setting.1 setting.2)

theorem lastSet?_cons (setting : Char × Alphabet) (rest : List (Char × Alphabet))
    (letter : Char) :
    lastSet? (setting :: rest) letter =
      (lastSet? rest letter).or (if letter = setting.1 then some setting.2 else none) := by
  rcases setting with ⟨set, alphabet⟩
  rw [lastSet?, List.reverse_cons, List.lookup_append, lastSet?, List.lookup_cons]
  by_cases same : letter = set
  · rw [if_pos same, beq_iff_eq.mpr same]
  · rw [if_neg same, beq_eq_false_iff_ne.mpr same]
    rfl

/-- The last setting of a letter decides what it is bound to. -/
theorem Reached.get?_setAll {table : LetterTable} (reached : table.Reached)
    (history : List (Char × Alphabet)) (letter : Char) :
    (table.setAll history).2.get? letter = boundAfter table history letter := by
  induction history generalizing table with
  | nil => rfl
  | cons setting rest ih =>
      have onward := ih (reached.set setting.1 setting.2)
      have here := reached.get?_bind setting.1 setting.2 letter
      rw [LetterTable.set] at onward
      rw [boundAfter] at onward ⊢
      rw [lastSet?_cons]
      calc
        (table.setAll (setting :: rest)).2.get? letter =
            ((table.bind setting.1 setting.2).setAll rest).2.get? letter := rfl
        _ = _ := onward
        _ = _ := by
          cases lastSet? rest letter with
          | some alphabet => rfl
          | none =>
              rw [here]
              by_cases same : letter = setting.1 <;> simp [same]

/-! ## What settings give back -/

/-- Every setting gives back what its letter was bound to just before. -/
theorem setAll_fst (table : LetterTable) (history : List (Char × Alphabet)) :
    (table.setAll history).1 =
      history.mapIdx fun index setting =>
        (table.setAll (history.take index)).2.get? setting.1 := by
  induction history generalizing table with
  | nil => rfl
  | cons setting rest ih =>
      rw [List.mapIdx_cons]
      exact congrArg (table.get? setting.1 :: ·) (ih (table.bind setting.1 setting.2))

/-! ## Histories that cannot be told apart -/

/-- The last setting of a letter is the last one among those of this letter. -/
theorem lastSet?_settingsOf (history : List (Char × Alphabet)) (letter : Char) :
    lastSet? (settingsOf history letter) letter = lastSet? history letter := by
  induction history with
  | nil => rfl
  | cons setting rest ih =>
      rw [lastSet?_cons, settingsOf, List.filter_cons]
      by_cases same : setting.1 = letter
      · rw [if_pos (beq_iff_eq.mpr same), lastSet?_cons, ← settingsOf, ih]
      · rw [if_neg (mt beq_iff_eq.mp same), ← settingsOf, ih, if_neg (Ne.symm same),
          Option.or_none]

/-- Histories in which every letter was set last to the same alphabet lead to equal tables. -/
theorem Reached.setAll_eq_of_lastSet? {table : LetterTable} (reached : table.Reached)
    {history others : List (Char × Alphabet)}
    (same : ∀ letter, lastSet? others letter = lastSet? history letter) :
    (table.setAll others).2 = (table.setAll history).2 := by
  refine (reached.setAll others).eq_of_get?_eq (reached.setAll history) ?_
  intro letter
  rw [reached.get?_setAll, reached.get?_setAll, boundAfter, boundAfter, same]

/-- From the empty or the usual table, whatever letters are set to whatever alphabets: a letter
is bound to what it was set to last, and every setting gives back what was bound before.  The
letters of the table are listed in ascending order, those that are bound and no others.  Two
such tables are equal exactly if the same is found in them for every letter.  So histories with
the same last settings lead to equal tables, and it does not matter in which order different
letters are set. -/
theorem setAll_lastWriterWins {start : LetterTable} (usual : start = .empty ∨ start = .standard)
    (history : List (Char × Alphabet)) :
    let table := (start.setAll history).2
    (∀ letter, table.get? letter = boundAfter start history letter) ∧
    (start.setAll history).1 =
      (history.mapIdx fun index setting =>
        (start.setAll (history.take index)).2.get? setting.1) ∧
    table.letters.Pairwise (· < ·) ∧
    (∀ letter, letter ∈ table.letters ↔ ∃ alphabet, table.get? letter = some alphabet) ∧
    (∀ otherStart others, otherStart = .empty ∨ otherStart = .standard →
      (table = (LetterTable.setAll otherStart others).2 ↔
        ∀ letter, table.get? letter = (LetterTable.setAll otherStart others).2.get? letter)) ∧
    (∀ others, (∀ letter, lastSet? others letter = lastSet? history letter) →
      (start.setAll others).2 = table) ∧
    (∀ others, (∀ letter, settingsOf others letter = settingsOf history letter) →
      (start.setAll others).2 = table) := by
  have reached := reached_of_usual usual
  refine ⟨reached.get?_setAll history, setAll_fst start history, ?_,
    fun letter => mem_letters_iff, ?_, fun others => reached.setAll_eq_of_lastSet?, ?_⟩
  · exact List.pairwise_map.mpr (reached.setAll history).isAscending
  · intro otherStart others otherUsual
    constructor
    · rintro same letter
      rw [← same]
    · exact (reached.setAll history).eq_of_get?_eq
        ((reached_of_usual otherUsual).setAll others)
  · intro others same
    refine reached.setAll_eq_of_lastSet? fun letter => ?_
    rw [← lastSet?_settingsOf, same, lastSet?_settingsOf]

/-- Of the usual letters, the capitals are removed while another letter is set twice. -/
theorem get?_setAll_standard :
    let history : List (Char × Alphabet) :=
      [('h', .ofString "01"), ('C', .ofString ""), ('h', .ofString "ab")]
    let table := (standard.setAll history).2
    (standard = .empty ∨ standard = .standard) ∧
      table.get? 'h' = some (.ofString "ab") ∧ table.get? 'C' = none ∧
      (∀ others, (∀ letter, settingsOf others letter = settingsOf history letter) →
        (standard.setAll others).2 = table) := by
  intro history table
  have usual : standard = .empty ∨ standard = .standard := .inr rfl
  obtain ⟨decided, _, _, _, _, _, ordered⟩ := setAll_lastWriterWins usual history
  exact ⟨usual, (decided 'h').trans rfl, (decided 'C').trans rfl, ordered⟩

end PatternDraw.LetterTable
