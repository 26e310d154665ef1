import PatternDraw.Proofs.Drawing.Rows

/-!
# A batch is a row of patterns

A batch is answered by drawing from its patterns one after the other.  It is answered by all
texts or by the first fault, and in both cases it has made the draws and left the records of
the patterns that were drawn from, after the one record of its own.  Two batches, one after the
other, are therefore one batch.
-/

namespace PatternDraw

variable {σ : Type}

/-- A row gives one text for each of its patterns. -/
theorem Draws.length_eq {draw : String → σ → Run σ String} {source rest : σ}
    {patterns texts : List String} {records : List Record}
    (draws : Draws draw source patterns texts records rest) : texts.length = patterns.length := by
  induction draws with
  | nil => rfl
  | cons _ _ ih => exact congrArg (· + 1) ih

/-- A run without its first record. -/
def Run.dropRecord {α : Type} (run : Run σ α) : Run σ α :=
  { run with records := run.records.tail }

variable [EntropySource σ]

namespace Composer

/-! ## Texts -/

/-- A row that gives all its texts is answered by them. -/
theorem drawAll_of_draws {composer : Composer} {source rest : σ} {patterns texts : List String}
    {records : List Record}
    (draws : Draws composer.drawPattern source patterns texts records rest) :
    composer.drawAll patterns source = ⟨.ok texts, records, rest⟩ := by
  induction draws with
  | nil => rfl
  | cons drawn _ ih =>
      rw [drawAll, drawn]
      simp only [Run.andThen, ih]
      rfl

/-- A row that comes to a fault is answered by the fault. -/
theorem drawAll_of_comesTo {composer : Composer} {source rest : σ} {patterns texts : List String}
    {records more : List Record} {pattern : String} {fault : Fault}
    (comes : ComesTo composer.drawPattern source patterns texts records pattern
      ⟨.error fault, more, rest⟩) :
    composer.drawAll patterns source = ⟨.error fault, records ++ more, rest⟩ := by
  obtain ⟨earlier, later, middle, rfl, draws, last⟩ := comes
  induction draws with
  | nil =>
      rw [List.nil_append, drawAll, last]
      rfl
  | cons drawn _ ih =>
      rw [List.cons_append, drawAll, drawn]
      simp only [Run.andThen, ih last]
      simp only [Run.map, Run.prependRecords, List.append_assoc]
      rfl

/-- Texts are drawn from a longer row by going on from what the first part left. -/
theorem drawAll_append (composer : Composer) (first second : List String) (source : σ) :
    composer.drawAll (first ++ second) source =
      (composer.drawAll first source).andThen fun texts source =>
        (composer.drawAll second source).map (texts ++ ·) := by
  induction first generalizing source with
  | nil =>
      simp only [List.nil_append, drawAll, Run.andThen]
      rcases composer.drawAll second source with ⟨_ | texts, records, rest⟩
      · rfl
      · rfl
  | cons pattern first ih =>
      rw [List.cons_append, drawAll, drawAll]
      rcases composer.drawPattern pattern source with ⟨_ | text, records, middle⟩
      · rfl
      · simp only [Run.andThen, ih]
        rcases composer.drawAll first middle with ⟨_ | texts, more, final⟩
        · rfl
        · rcases onward : composer.drawAll second final with ⟨_ | later, last, rest⟩
          · simp [onward, Run.map, Run.prependRecords, Except.map]
          · simp [onward, Run.map, Run.prependRecords, Except.map]

/-! ## Answers -/

/-- A batch whose patterns all give texts is answered by them, after one record of its own. -/
theorem answer_batch_of_draws {composer : Composer} {source rest : σ}
    {patterns texts : List String} {records : List Record}
    (draws : Draws composer.drawPattern source patterns texts records rest) :
    composer.answer (.batch patterns) source =
      ⟨.ok (.batch texts), .batch patterns.length :: records, rest⟩ := by
  rw [answer, drawAll_of_draws draws]
  rfl

/-- A batch that comes to a fault is answered by the fault alone. -/
theorem answer_batch_of_comesTo {composer : Composer} {source rest : σ}
    {patterns texts : List String} {before own : List Record} {pattern : String} {fault : Fault}
    (comes : ComesTo composer.drawPattern source patterns texts before pattern
      ⟨.error fault, own, rest⟩) :
    composer.answer (.batch patterns) source =
      ⟨.error fault, .batch patterns.length :: (before ++ own), rest⟩ := by
  rw [answer, drawAll_of_comesTo comes]
  rfl

/-- A batch is answered by texts exactly when its patterns give them one after the other. -/
theorem answer_batch_ok_iff {composer : Composer} {patterns texts : List String} {source rest : σ}
    {records : List Record} :
    composer.answer (.batch patterns) source =
        ⟨.ok (.batch texts), .batch patterns.length :: records, rest⟩ ↔
      Draws composer.drawPattern source patterns texts records rest := by
  constructor
  · intro answered
    rcases draws_or_comesTo_fault composer.drawPattern source patterns with
      ⟨given, _, _, draws⟩ | ⟨_, _, _, _, _, _, comes⟩
    · rw [answer_batch_of_draws draws] at answered
      cases answered
      exact draws
    · rw [answer_batch_of_comesTo comes] at answered
      cases answered
  · exact answer_batch_of_draws

/-- A batch is answered by a fault exactly when its row comes to the fault. -/
theorem answer_batch_error_iff {composer : Composer} {patterns : List String} {source rest : σ}
    {records : List Record} {fault : Fault} :
    composer.answer (.batch patterns) source =
        ⟨.error fault, .batch patterns.length :: records, rest⟩ ↔
      ∃ texts before pattern own, records = before ++ own ∧
        ComesTo composer.drawPattern source patterns texts before pattern
          ⟨.error fault, own, rest⟩ := by
  constructor
  · intro answered
    rcases draws_or_comesTo_fault composer.drawPattern source patterns with
      ⟨_, _, _, draws⟩ | ⟨texts, before, pattern, _, own, _, comes⟩
    · rw [answer_batch_of_draws draws] at answered
      cases answered
    · rw [answer_batch_of_comesTo comes] at answered
      cases answered
      exact ⟨texts, before, pattern, own, rfl, comes⟩
  · rintro ⟨texts, before, pattern, own, rfl, comes⟩
    exact answer_batch_of_comesTo comes

/-- Apart from the record that tells its length, a batch is answered as its row is drawn. -/
theorem dropRecord_answer_batch (composer : Composer) (patterns : List String) (source : σ) :
    (composer.answer (.batch patterns) source).dropRecord =
      (composer.drawAll patterns source).map .batch :=
  rfl

/-- Two batches in one are answered as the first, continued by the second. -/
theorem dropRecord_answer_batch_append (composer : Composer) (first second : List String)
    (source : σ) :
    (composer.answer (.batch (first ++ second)) source).dropRecord =
      (composer.answer (.batch first) source).dropRecord.andThen fun texts source =>
        (composer.answer (.batch second) source).dropRecord.map fun later =>
          .batch (texts.toList ++ later.toList) := by
  simp only [dropRecord_answer_batch, drawAll_append]
  rcases composer.drawAll first source with ⟨_ | texts, records, middle⟩
  · rfl
  · simp only [Run.andThen, Run.map, Except.map]
    rcases composer.drawAll second middle with ⟨_ | later, more, rest⟩
    · rfl
    · rfl

/-- A batch is answered by the texts that its patterns give one after the other if every pattern
gives one, and by the first fault that the row comes to if not, with the draws and the records
of the patterns drawn from and no others.  The answer of two batches in one is the answer of the
first, continued by that of the second. -/
theorem answer_batch (composer : Composer) (patterns : List String) (source : σ) :
    ((∃ texts records rest, texts.length = patterns.length ∧
        composer.answer (.batch patterns) source =
          ⟨.ok (.batch texts), .batch patterns.length :: records, rest⟩) ∨
      ∃ fault records rest, composer.answer (.batch patterns) source =
        ⟨.error fault, .batch patterns.length :: records, rest⟩) ∧
    (∀ texts records rest,
      composer.answer (.batch patterns) source =
          ⟨.ok (.batch texts), .batch patterns.length :: records, rest⟩ ↔
        Draws composer.drawPattern source patterns texts records rest) ∧
    (∀ fault records rest,
      composer.answer (.batch patterns) source =
          ⟨.error fault, .batch patterns.length :: records, rest⟩ ↔
        ∃ texts before pattern own, records = before ++ own ∧
          ComesTo composer.drawPattern source patterns texts before pattern
            ⟨.error fault, own, rest⟩) ∧
    ∀ more,
      (composer.answer (.batch (patterns ++ more)) source).dropRecord =
        (composer.answer (.batch patterns) source).dropRecord.andThen fun texts source =>
          (composer.answer (.batch more) source).dropRecord.map fun later =>
            .batch (texts.toList ++ later.toList) := by
  refine ⟨?_, fun _ _ _ => answer_batch_ok_iff, fun _ _ _ => answer_batch_error_iff,
    fun more => dropRecord_answer_batch_append composer patterns more source⟩
  rcases draws_or_comesTo_fault composer.drawPattern source patterns with
    ⟨texts, records, rest, draws⟩ | ⟨_, before, _, fault, own, rest, comes⟩
  · exact .inl ⟨texts, records, rest, draws.length_eq, answer_batch_of_draws draws⟩
  · exact .inr ⟨fault, before ++ own, rest, answer_batch_of_comesTo comes⟩

end Composer
end PatternDraw
