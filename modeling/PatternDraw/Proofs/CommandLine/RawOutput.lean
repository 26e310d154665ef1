import PatternDraw.Proofs.CommandLine.SequentialRun
import PatternDraw.Proofs.CommandLine.Switches

/-!
# Single bytes and UTF-8

A run that writes single bytes makes the same draws as the run that writes UTF-8, so both write
the same texts as long as these are narrow.  The first text that is not ends the run for single
bytes, with nothing of it written.  What this run leaves behind is therefore a beginning of what
the other one does, and the whole of it exactly if every text is narrow.
-/

namespace PatternDraw.CommandLine

open Text

theorem isNarrow_lines {texts : List String} :
    Latin1.IsNarrow (lines texts) ↔ ∀ text ∈ texts, Latin1.IsNarrow text := by
  have newline : Latin1.IsNarrow "\n" := by
    intro ch member
    cases List.mem_singleton.mp member
    decide
  induction texts with
  | nil => simp [lines, Latin1.IsNarrow]
  | cons text rest ih =>
      simp only [lines, Latin1.isNarrow_append, newline, and_true, ih, List.forall_mem_cons]

/-- The lines of some texts are the beginning of those of more texts. -/
theorem lines_isPrefix_append (first second : List String) :
    (lines first).toList <+: (lines (first ++ second)).toList := by
  rw [lines_append, String.toList_append]
  exact List.prefix_append _ _

namespace Settings

variable {σ : Type} [EntropySource σ] {source rest : σ} {texts : List String}
  {records : List Record}

/-- The outcome is that of a run that ends at the first of the texts with a character above
U+00FF: it has written the texts before, and says from which pattern this one was drawn. -/
def StopsAtWide (settings : Settings) (source : σ) (texts : List String)
    (outcome : Outcome) : Prop :=
  ∃ before wide after records pattern more rest,
    texts = before ++ wide :: after ∧ (∀ text ∈ before, Latin1.IsNarrow text) ∧
      ¬ Latin1.IsNarrow wide ∧
      ComesTo settings.drawText source settings.generations before records pattern
        ⟨.ok wide, more, rest⟩ ∧
      outcome.code = 1 ∧ Latin1.decode outcome.output = lines before ∧
      outcome.errors =
        settings.log (records ++ more) ++ (Failure.wideOutput pattern).message

/-- How a run for single bytes ends where the run in UTF-8 draws the given texts: in the same way
if they are all narrow, and at the first of them that is not otherwise. -/
structure Follows (settings : Settings) (source : σ) (texts : List String)
    (utf8 raw : Outcome) : Prop where
  /-- Narrow texts are written in both ways. -/
  same : (∀ text ∈ texts, Latin1.IsNarrow text) →
    raw.code = utf8.code ∧ raw.errors = utf8.errors ∧ Latin1.decode raw.output = lines texts
  /-- A text that is not narrow is not written in single bytes. -/
  stops : (¬ ∀ text ∈ texts, Latin1.IsNarrow text) → settings.StopsAtWide source texts raw

/-- What a run for single bytes leaves behind is a beginning of what the run in UTF-8 does, and
the whole of it exactly if this is complete and narrow. -/
theorem Follows.output {settings : Settings} {utf8 raw : Outcome}
    (follows : settings.Follows source texts utf8 raw) :
    (Latin1.decode raw.output).toList <+: (lines texts).toList ∧
      (raw.code = 0 ↔ utf8.code = 0 ∧ Latin1.IsNarrow (lines texts)) ∧
      (raw.code = 0 → Latin1.decode raw.output = lines texts) := by
  rw [isNarrow_lines]
  by_cases narrow : ∀ text ∈ texts, Latin1.IsNarrow text
  · obtain ⟨code, _, decoded⟩ := follows.same narrow
    rw [code, decoded]
    exact ⟨List.prefix_rfl, (and_iff_left narrow).symm, fun _ => rfl⟩
  · obtain ⟨before, wide, after, _, _, _, _, split, _, _, _, code, decoded, _⟩ :=
      follows.stops narrow
    rw [code, decoded, split]
    rw [split] at narrow
    have stopped : ¬ (1 : UInt8) = 0 := by decide
    exact ⟨lines_isPrefix_append _ _,
      ⟨fun ends => absurd ends stopped, fun both => absurd both.2 narrow⟩,
      fun ends => absurd ends stopped⟩

end Settings

/-! ## The whole program -/

end PatternDraw.CommandLine
