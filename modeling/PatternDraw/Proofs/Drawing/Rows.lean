import PatternDraw.Composer

/-!
# Rows of patterns

Texts are drawn from a row of patterns one after the other, and the source is handed on from
each pattern to the next.  A row gives a text for each of its patterns, or it comes to a first
pattern that gives none.
-/

namespace PatternDraw

variable {σ : Type}

/-- Every pattern of a row gives a text, each drawn with what the one before left of the
source. -/
inductive Draws (draw : String → σ → Run σ String) :
    σ → List String → List String → List Record → σ → Prop
  | nil (source : σ) : Draws draw source [] [] [] source
  | cons {source middle rest : σ} {pattern text : String} {patterns texts : List String}
      {records more : List Record} (drawn : draw pattern source = ⟨.ok text, records, middle⟩)
      (onward : Draws draw middle patterns texts more rest) :
      Draws draw source (pattern :: patterns) (text :: texts) (records ++ more) rest

/-- Every pattern before some place in a row gives a text, and the pattern at this place comes
to the given run. -/
def ComesTo (draw : String → σ → Run σ String) (source : σ) (patterns texts : List String)
    (records : List Record) (pattern : String) (run : Run σ String) : Prop :=
  ∃ earlier later middle, patterns = earlier ++ pattern :: later ∧
    Draws draw source earlier texts records middle ∧ draw pattern middle = run

theorem ComesTo.cons {draw : String → σ → Run σ String} {source middle : σ}
    {first text pattern : String} {patterns texts : List String} {records more : List Record}
    {run : Run σ String} (drawn : draw first source = ⟨.ok text, records, middle⟩)
    (onward : ComesTo draw middle patterns texts more pattern run) :
    ComesTo draw source (first :: patterns) (text :: texts) (records ++ more) pattern run := by
  obtain ⟨earlier, later, last, rfl, draws, comes⟩ := onward
  exact ⟨first :: earlier, later, last, rfl, .cons drawn draws, comes⟩

/-- Every row gives all its texts or comes to a fault. -/
theorem draws_or_comesTo_fault (draw : String → σ → Run σ String) (source : σ)
    (patterns : List String) :
    (∃ texts records rest, Draws draw source patterns texts records rest) ∨
      ∃ texts records pattern fault more rest,
        ComesTo draw source patterns texts records pattern ⟨.error fault, more, rest⟩ := by
  induction patterns generalizing source with
  | nil => exact .inl ⟨[], [], source, .nil source⟩
  | cons first patterns ih =>
      rcases drawn : draw first source with ⟨_ | text, records, middle⟩
      · exact .inr ⟨[], [], first, _, records, middle,
          [], patterns, source, rfl, .nil source, drawn⟩
      · rcases ih middle with
          ⟨texts, more, rest, draws⟩ | ⟨texts, more, pattern, fault, last, rest, comes⟩
        · exact .inl ⟨text :: texts, records ++ more, rest, .cons drawn draws⟩
        · exact .inr ⟨text :: texts, records ++ more, pattern, fault, last, rest, comes.cons drawn⟩

/-- What a row comes to does not depend on what follows. -/
theorem ComesTo.append {draw : String → σ → Run σ String} {source : σ}
    {patterns texts : List String} {records : List Record} {pattern : String} {run : Run σ String}
    (comes : ComesTo draw source patterns texts records pattern run) (more : List String) :
    ComesTo draw source (patterns ++ more) texts records pattern run := by
  obtain ⟨earlier, later, middle, rfl, draws, last⟩ := comes
  exact ⟨earlier, later ++ more, middle, by simp, draws, last⟩

end PatternDraw
