import PatternDraw.Regex.CharSet
import PatternDraw.Regex.Tree

/-!
# Search expressions

An expression says what is searched for, whatever flags it was written with.  The functions that
build expressions keep them small: literals that stand side by side are one literal, a choice
between characters is a set, and what the alternatives start with in common is put before them.
-/

namespace PatternDraw.Regex

/-- A condition on a place. -/
inductive Look where
  /-- The start of the text. -/
  | textStart
  /-- The end of the text. -/
  | textEnd
  /-- The start of a line that ends with a line feed. -/
  | lineStart
  /-- The end of a line that ends with a line feed. -/
  | lineEnd
  /-- The start of a line that ends with a carriage return, a line feed or both. -/
  | anyLineStart
  /-- The end of a line that ends with a carriage return, a line feed or both. -/
  | anyLineEnd
  /-- A condition on the words around the place.  Word characters are those of ASCII, or those
  of all scripts. -/
  | words (condition : WordCondition) (allScripts : Bool)
  deriving DecidableEq, Repr, Inhabited

/-- What is searched for. -/
inductive Expression where
  /-- The empty text. -/
  | empty
  /-- A text. -/
  | literal (text : List Char)
  /-- One member of a set of characters or bytes. -/
  | oneOf (world : Universe) (intervals : List Interval)
  /-- A condition on the place. -/
  | look (look : Look)
  /-- A repetition with bounds on its count, and whether it prefers many to few. -/
  | repeated (least : Nat) (most : Option Nat) (eager : Bool) (body : Expression)
  /-- An expression with a number. -/
  | numbered (number : Nat) (body : Expression)
  /-- Several expressions one behind the other. -/
  | sequence (parts : List Expression)
  /-- One of several expressions. -/
  | alternatives (branches : List Expression)
  deriving Inhabited

namespace Expression

/-! ## Equality -/

mutual

/-- Whether two expressions are the same. -/
def same : Expression → Expression → Bool
  | empty, empty => true
  | literal text, literal other => text == other
  | oneOf world intervals, oneOf other others => world == other && intervals == others
  | look condition, look other => condition == other
  | repeated least most eager body, repeated least' most' eager' other =>
      least == least' && most == most' && eager == eager' && same body other
  | numbered number body, numbered number' other => number == number' && same body other
  | sequence parts, sequence others => allSame parts others
  | alternatives branches, alternatives others => allSame branches others
  | _, _ => false

/-- Whether two lists of expressions are the same. -/
def allSame : List Expression → List Expression → Bool
  | [], [] => true
  | expression :: rest, other :: others => same expression other && allSame rest others
  | _, _ => false

end

/-! ## Lengths -/

/-- The number of bytes of a character. -/
def width (code : Nat) : Nat :=
  if code < 0x80 then 1 else if code < 0x800 then 2 else if code < 0x10000 then 3 else 4

/-- The number of bytes of a member of a universe. -/
def widthIn : Universe → Nat → Nat
  | .chars, code => width code
  | .bytes, _ => 1

mutual

/-- The least number of bytes that an expression matches, if it is known to match any. -/
def minLength? : Expression → Option Nat
  | empty => some 0
  | literal text => some (text.foldl (fun total ch => total + width ch.toNat) 0)
  | oneOf world intervals => intervals.head?.map fun interval => widthIn world interval.1
  | look _ => some 0
  | repeated least _ _ body => (minLength? body).map (least * ·)
  | numbered _ body => minLength? body
  | sequence parts => totalMin? 0 parts
  | alternatives branches => leastMin? none branches

/-- The sum of the least numbers of bytes, `total` being that of the expressions before. -/
def totalMin? (total : Nat) : List Expression → Option Nat
  | [] => some total
  | part :: rest =>
      match minLength? part with
      | some length => totalMin? (total + length) rest
      | none => none

/-- The least of the least numbers of bytes, `found` being that of the expressions before. -/
def leastMin? (found : Option Nat) : List Expression → Option Nat
  | [] => found
  | branch :: rest =>
      match minLength? branch with
      | some length => leastMin? (some (found.elim length (min length))) rest
      | none => none

end

mutual

/-- The greatest number of bytes that an expression matches, if it is known and there is one. -/
def maxLength? : Expression → Option Nat
  | empty => some 0
  | literal text => some (text.foldl (fun total ch => total + width ch.toNat) 0)
  | oneOf world intervals => intervals.getLast?.map fun interval => widthIn world interval.2
  | look _ => some 0
  | repeated _ most _ body =>
      match most with
      | none => none
      | some most => (maxLength? body).map (most * ·)
  | numbered _ body => maxLength? body
  | sequence parts => totalMax? 0 parts
  | alternatives branches => greatestMax? none branches

/-- The sum of the greatest numbers of bytes, `total` being that of the expressions before. -/
def totalMax? (total : Nat) : List Expression → Option Nat
  | [] => some total
  | part :: rest =>
      match maxLength? part with
      | some length => totalMax? (total + length) rest
      | none => none

/-- The greatest of the greatest numbers of bytes, `found` being that of the expressions
before. -/
def greatestMax? (found : Option Nat) : List Expression → Option Nat
  | [] => found
  | branch :: rest =>
      match maxLength? branch with
      | some length => greatestMax? (some (found.elim length (max length))) rest
      | none => none

end

/-! ## Conditions -/

mutual

/-- Whether some condition in an expression depends on the words of all scripts. -/
def usesAllScripts : Expression → Bool
  | empty => false
  | literal _ => false
  | oneOf _ _ => false
  | look (.words _ allScripts) => allScripts
  | look _ => false
  | repeated _ _ _ body => usesAllScripts body
  | numbered _ body => usesAllScripts body
  | sequence parts => anyUsesAllScripts parts
  | alternatives branches => anyUsesAllScripts branches

/-- Whether some condition in some expression depends on the words of all scripts. -/
def anyUsesAllScripts : List Expression → Bool
  | [] => false
  | expression :: rest => usesAllScripts expression || anyUsesAllScripts rest

end

mutual

/-- Whether an expression matches nowhere but at places with the condition, since its first
part has it. -/
def startsWith (condition : Look) : Expression → Bool
  | look other => condition == other
  | repeated least _ _ body => 0 < least && startsWith condition body
  | numbered _ body => startsWith condition body
  | sequence parts => someStartsWith condition parts
  | alternatives branches => !branches.isEmpty && allStartWith condition branches
  | _ => false

/-- Whether the condition stands before the first part of a sequence that matches a text. -/
def someStartsWith (condition : Look) : List Expression → Bool
  | [] => false
  | part :: rest =>
      startsWith condition part ||
        (maxLength? part == some 0 && someStartsWith condition rest)

/-- Whether all alternatives start with the condition. -/
def allStartWith (condition : Look) : List Expression → Bool
  | [] => true
  | branch :: rest => startsWith condition branch && allStartWith condition rest

end

mutual

/-- Turn the order of all sequences round. -/
def reversed : Expression → Expression
  | repeated least most eager body => repeated least most eager (reversed body)
  | numbered number body => numbered number (reversed body)
  | sequence parts => sequence (reversedAll [] parts)
  | alternatives branches => alternatives (reversedAll [] branches).reverse
  | other => other

/-- Turn the order of all sequences in some expressions round.  The list comes out the other
way round and before the given one. -/
def reversedAll (done : List Expression) : List Expression → List Expression
  | [] => done
  | expression :: rest => reversedAll (reversed expression :: done) rest

end

/-! ## Building expressions -/

/-- What matches nowhere. -/
def nothing : Expression :=
  oneOf .bytes []

/-- One member of a set.  A set with a single member is a literal. -/
def ofSet (world : Universe) (set : CharSet) : Expression :=
  match set.intervals with
  | [] => nothing
  | [(first, last)] =>
      if first = last then literal [Char.ofNat first] else oneOf world [(first, last)]
  | intervals => oneOf world intervals

/-- A repetition.  What matches the empty text only need not be repeated more than once. -/
def repetition (least : Nat) (most : Option Nat) (eager : Bool) (body : Expression) : Expression :=
  let isBlank := maxLength? body == some 0
  let least := if isBlank then min least 1 else least
  let most := if isBlank then some (most.elim 1 (min 1)) else most
  if least = 0 && most = some 0 then empty
  else if least = 1 && most = some 1 then body
  else repeated least most eager body

/-- The parts of an expression that stands in a sequence. -/
def partsOf : Expression → List Expression
  | empty => []
  | sequence parts => parts
  | other => [other]

/-- Put a literal with the given characters, the last one first, before the parts. -/
def withLiteral (text : List Char) (parts : List Expression) : List Expression :=
  if text.isEmpty then parts else literal text.reverse :: parts

/-- Join literals that stand side by side.  The parts before and the characters of a literal at
their end are given, the last ones first. -/
def joinLiterals : List Expression → List Char → List Expression → List Expression
  | done, text, [] => (withLiteral text done).reverse
  | done, text, literal more :: rest => joinLiterals done (more.reverse ++ text) rest
  | done, text, part :: rest => joinLiterals (part :: withLiteral text done) [] rest

/-- Several expressions one behind the other. -/
def inSequence (parts : List Expression) : Expression :=
  match joinLiterals [] [] (parts.flatMap partsOf) with
  | [] => empty
  | [part] => part
  | parts => sequence parts

/-- The branches of an expression that stands in a choice. -/
def branchesOf : Expression → List Expression
  | alternatives branches => branches
  | other => [other]

/-- The character that a literal consists of. -/
def character? : Expression → Option Char
  | literal [ch] => some ch
  | _ => none

/-- The intervals of a set. -/
def intervals? : Expression → Option (List Interval)
  | oneOf _ intervals => some intervals
  | _ => none

/-- The parts of a sequence. -/
def sequence? : Expression → Option (List Expression)
  | sequence parts => some parts
  | _ => none

/-- What two lists of expressions start with in common. -/
def commonStart : List Expression → List Expression → List Expression
  | expression :: rest, other :: others =>
      if same expression other then expression :: commonStart rest others else []
  | _, _ => []

/-- What all lists of expressions start with in common. -/
def commonStartOf : List (List Expression) → List Expression
  | [] => []
  | first :: rest => rest.foldl commonStart first

/-- A choice whose branches are neither choices themselves nor start with anything in common,
unless they are all characters or all sets. -/
def choice (branches : List Expression) : Expression :=
  match branches with
  | [] => nothing
  | [branch] => branch
  | branches =>
      match branches.mapM character? with
      | some chars =>
          ofSet .chars (CharSet.ofIntervals (chars.map fun ch => (ch.toNat, ch.toNat)))
      | none =>
          match branches.mapM intervals? with
          | some intervals => ofSet .chars (CharSet.ofIntervals intervals.flatten)
          | none => alternatives branches

/-- One of several expressions.  A common start is put before the choice between the rests; the
rests have no common start, but may be choices themselves. -/
def oneOfSeveral (branches : List Expression) : Expression :=
  let branches := branches.flatMap branchesOf
  match branches.mapM sequence? with
  | some (first :: second :: others) =>
      let sequences := first :: second :: others
      let start := commonStartOf sequences
      if start.isEmpty then choice branches
      else
        let rests := sequences.map fun parts => inSequence (parts.drop start.length)
        inSequence (start ++ [choice (rests.flatMap branchesOf)])
  | _ => choice branches

end Expression

end PatternDraw.Regex
