import PatternDraw.Regex.Automaton

/-!
# Automata for expressions

The automaton for an expression takes the texts that the expression matches, wherever they
start.  It is made twice, once for texts read from their start and once for texts read from their
end; both have to keep within the memory that an automaton may take up, and searching uses the
first one.
-/

namespace PatternDraw.Regex

namespace Expression

/-- The bytes of a text in the order in which they are read. -/
def literalBytes (direction : Direction) (text : List Char) : List Nat :=
  let bytes := text.flatMap fun ch => Text.ByteRanges.encode ch.toNat
  match direction with
  | .forward => bytes
  | .backward => bytes.reverse

/-- The text of a literal. -/
def text? : Expression → Option (List Char)
  | literal text => some text
  | _ => none

/-- Whether an expression is known to take a byte at least. -/
def takesByte (expression : Expression) : Bool :=
  (minLength? expression).any (0 < ·)

mutual

/-- The part of an automaton for an expression whose sequences are in the order of reading. -/
def build (direction : Direction) : Expression → Build
  | empty => Build.blank
  | literal text => Build.bytes (literalBytes direction text)
  | oneOf world intervals => Build.set direction world intervals
  | look condition => Build.node (.look condition 0)
  | repeated least most _ body =>
      Build.repeated (takesByte body) (build direction body) least most
  | numbered _ body =>
      match direction with
      | .backward => build direction body
      | .forward => fun draft => do
          let (start, draft) ← draft.add (.jump 0)
          let (part, draft) ← build direction body draft
          let (stop, draft) ← draft.add (.jump 0)
          let draft ← draft.connect start part.start
          let draft ← draft.connect part.stop stop
          return (⟨start, stop⟩, draft)
  | sequence parts => buildSequence direction parts
  | alternatives branches =>
      match branches.mapM text? with
      | some (first :: second :: others) =>
          Build.oneOfTexts ((first :: second :: others).map (literalBytes direction))
      | _ => buildChoice direction branches

/-- Parts for the expressions of a sequence, from the first to the last. -/
def buildSequence (direction : Direction) : List Expression → Build
  | [] => Build.blank
  | first :: rest => fun draft =>
      match build direction first draft with
      | some (part, draft) => buildBehind direction rest part draft
      | none => none

/-- A part, then parts for the expressions of a sequence behind it. -/
def buildBehind (direction : Direction) : List Expression → Part → Build
  | [], part, draft => some (part, draft)
  | next :: rest, part, draft =>
      match Build.before part (build direction next) draft with
      | some (part, draft) => buildBehind direction rest part draft
      | none => none

/-- Parts for the branches of a choice. -/
def buildChoice (direction : Direction) : List Expression → Build
  | [] => Build.byteSet []
  | [branch] => build direction branch
  | left :: right :: rest => fun draft =>
      match build direction left draft with
      | none => none
      | some (left, draft) =>
          match build direction right draft with
          | none => none
          | some (right, draft) =>
              match Build.eitherOf left right draft with
              | none => none
              | some (choice, draft) => buildBranches direction rest choice draft

/-- Parts for further branches of a choice. -/
def buildBranches (direction : Direction) : List Expression → Part → Build
  | [], choice, draft => some (choice, draft)
  | branch :: rest, choice, draft =>
      match build direction branch draft with
      | none => none
      | some (part, draft) =>
          match Build.joinBranch choice.start choice.stop part draft with
          | none => none
          | some draft => buildBranches direction rest choice draft

end

/-- The expression with its sequences in the order of reading. -/
def inOrder (direction : Direction) (expression : Expression) : Expression :=
  match direction with
  | .forward => expression
  | .backward => expression.reversed

/-- The place where reading starts. -/
def readingStart : Direction → Look
  | .forward => .textStart
  | .backward => .textEnd

/-- The nodes that pass over the bytes before a match, of which there are none if a match has
to be where reading starts. -/
def buildLead (direction : Direction) (expression : Expression) : Build :=
  if startsWith (readingStart direction) expression then Build.blank
  else Build.many (Build.byteSet [(0, 0xff)])

/-- The whole automaton for an expression, and the node where a match starts. -/
def buildAll (direction : Direction) (expression : Expression) : Option (Nat × Draft) := do
  let expression := inOrder direction expression
  let (lead, draft) ← buildLead direction expression .empty
  let (part, draft) ← build direction (numbered 0 expression) draft
  let (accept, draft) ← draft.add .accept
  let draft ← draft.connect part.stop accept
  let draft ← draft.connect lead.stop part.start
  return (part.start, draft)

end Expression

/-- An automaton, and the node where a match starts. -/
structure Automaton where
  /-- The nodes. -/
  nodes : Array Node
  /-- The node where a match starts. -/
  start : Nat
  deriving Inhabited

/-- Why there is no automaton for an expression. -/
inductive Obstacle where
  /-- It would take up too much memory. -/
  | tooLarge
  /-- The words of all scripts are not known. -/
  | unknownWords
  deriving DecidableEq, Repr, Inhabited

/-- The automaton for an expression. -/
def Expression.automaton (expression : Expression) : Except Obstacle Automaton :=
  match expression.buildAll .forward with
  | none => .error .tooLarge
  | some (start, draft) =>
      if expression.usesAllScripts then .error .unknownWords
      else
        match expression.buildAll .backward with
        | none => .error .tooLarge
        | some _ => .ok ⟨draft.nodes, start⟩

end PatternDraw.Regex
