import PatternDraw.Regex.Reader
import PatternDraw.Regex.Resolution
import PatternDraw.Regex.Search

/-!
# Search expressions ready for use

A written search expression is read, its meaning is found, and an automaton is made for it.  Each
of these steps may fail.
-/

namespace PatternDraw

/-- A search expression that is ready for use. -/
structure Regex where
  /-- The automaton for the expression. -/
  automaton : Regex.Automaton
  deriving Inhabited

namespace Regex

/-- Why a text is of no use as a search expression. -/
inductive Refusal where
  /-- The text has a fault. -/
  | fault (fault : Fault)
  /-- There is no automaton for the expression. -/
  | obstacle (obstacle : Obstacle)
  deriving DecidableEq, Repr, Inhabited

/-- The refusal in words. -/
def Refusal.message (pattern : String) : Refusal → String
  | fault found => found.message pattern
  | obstacle .tooLarge =>
      "Compiled regex exceeds size limit of " ++ toString Draft.memoryLimit ++ " bytes."
  | obstacle .unknownWords => "error building NFA"

/-- Make a written search expression ready for use. -/
def compile (pattern : String) : Except Refusal Regex :=
  match Tree.read pattern with
  | .error found => .error (.fault found)
  | .ok tree =>
      match tree.resolve {} with
      | .error found => .error (.fault found)
      | .ok (expression, _) =>
          match expression.automaton with
          | .error found => .error (.obstacle found)
          | .ok automaton => .ok ⟨automaton⟩

/-- Whether some stretch of a text matches. -/
def occursIn (regex : Regex) (text : String) : Bool :=
  regex.automaton.finds text

end Regex

end PatternDraw
