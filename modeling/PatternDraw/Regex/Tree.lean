import PatternDraw.Regex.Fault

/-!
# Search expressions as they are written

A tree has one node for each construct of a written search expression and keeps the stretch of
text that the construct takes.  What a construct means depends on the flags set around it and
is left open here.
-/

namespace PatternDraw.Regex

/-! ## Parts -/

/-- A condition on the words around a place. -/
inductive WordCondition where
  /-- A word starts or ends here. -/
  | boundary
  /-- No word starts or ends here. -/
  | noBoundary
  /-- A word starts here. -/
  | start
  /-- A word ends here. -/
  | stop
  /-- No word character stands before. -/
  | noneBefore
  /-- No word character stands behind. -/
  | noneAfter
  deriving DecidableEq, Repr, Inhabited

/-- A written condition on a place. -/
inductive Anchor where
  /-- The start of the text. -/
  | textStart
  /-- The end of the text. -/
  | textEnd
  /-- The start of the text, or of each of its lines. -/
  | lineStart
  /-- The end of the text, or of each of its lines. -/
  | lineEnd
  /-- A condition on the words around the place. -/
  | words (condition : WordCondition)
  deriving DecidableEq, Repr, Inhabited

/-- A set with a letter of its own. -/
inductive Shorthand where
  /-- Digits. -/
  | digit
  /-- Blanks. -/
  | space
  /-- Letters, digits and the underscore. -/
  | word
  deriving DecidableEq, Repr, Inhabited

/-- A written character. -/
structure Letter where
  /-- Where the character is written. -/
  span : Span
  /-- The character. -/
  ch : Char
  /-- Whether it is written with two hexadecimal digits, as a byte is. -/
  asByte : Bool
  deriving DecidableEq, Repr, Inhabited

/-- A construct for one character or one place. -/
inductive Atom where
  /-- A character. -/
  | letter (letter : Letter)
  /-- A condition on the place. -/
  | anchor (span : Span) (anchor : Anchor)
  /-- A set with a letter of its own, or its complement. -/
  | shorthand (span : Span) (shorthand : Shorthand) (negated : Bool)
  /-- The characters with a property. -/
  | property (span : Span) (name : List Char)
  deriving DecidableEq, Repr, Inhabited

namespace Atom

/-- Where an atom is written. -/
def span : Atom → Span
  | letter written => written.span
  | anchor span _ => span
  | shorthand span _ _ => span
  | property span _ => span

end Atom

/-! ## Sets in brackets -/

/-- How the set before two equal marks is combined with the set behind them. -/
inductive Combination where
  | inter
  | difference
  | symmetricDifference
  deriving DecidableEq, Repr, Inhabited

/-- A listed set. -/
inductive SetTree where
  /-- Nothing is listed. -/
  | empty (span : Span)
  /-- A character, or a set with an escape of its own. -/
  | atom (atom : Atom)
  /-- The characters between two characters, both included. -/
  | interval (span : Span) (first last : Letter)
  /-- A set with a name between colons, given by its intervals, or its complement. -/
  | named (span : Span) (intervals : List (Nat × Nat)) (negated : Bool)
  /-- A set in brackets of its own, or its complement. -/
  | brackets (span : Span) (negated : Bool) (body : SetTree)
  /-- Sets listed one behind the other. -/
  | union (span : Span) (items : List SetTree)
  /-- Two sets combined. -/
  | combined (span : Span) (combination : Combination) (left right : SetTree)
  deriving Inhabited

namespace SetTree

/-- Where a listed set is written. -/
def span : SetTree → Span
  | empty span => span
  | atom found => found.span
  | interval span _ _ => span
  | named span _ _ => span
  | brackets span _ _ => span
  | union span _ => span
  | combined span _ _ _ => span

end SetTree

/-! ## Expressions -/

/-- What a pair of parentheses is for. -/
inductive GroupKind where
  /-- The group has a number. -/
  | numbered (number : Nat)
  /-- Flags hold within the group. -/
  | flagged (marks : List Char)
  deriving DecidableEq, Repr, Inhabited

/-- A written search expression. -/
inductive Tree where
  /-- Nothing is written. -/
  | empty (span : Span)
  /-- A setting of flags. -/
  | flags (span : Span) (marks : List Char)
  /-- A character, a place or a set with an escape of its own. -/
  | atom (atom : Atom)
  /-- Any character. -/
  | dot (span : Span)
  /-- A set in brackets, or its complement. -/
  | brackets (span : Span) (negated : Bool) (body : SetTree)
  /-- A repetition with bounds on its count, and whether it prefers many to few. -/
  | repeated (span : Span) (least : Nat) (most : Option Nat) (eager : Bool) (body : Tree)
  /-- An expression in parentheses. -/
  | group (span : Span) (kind : GroupKind) (body : Tree)
  /-- One of several expressions. -/
  | alternatives (span : Span) (branches : List Tree)
  /-- Several expressions one behind the other. -/
  | sequence (span : Span) (parts : List Tree)
  deriving Inhabited

namespace Tree

/-- Where an expression is written. -/
def span : Tree → Span
  | empty span => span
  | flags span _ => span
  | atom found => found.span
  | dot span => span
  | brackets span _ _ => span
  | repeated span _ _ _ _ => span
  | group span _ _ => span
  | alternatives span _ => span
  | sequence span _ => span

end Tree

/-! ## Nesting -/

/-- Refuse a construct if it is nested too deeply. -/
def checkDepth (depth : Nat) (span : Span) : Except Fault Unit :=
  if nestLimit < depth then .error ⟨.tooDeep, span, none⟩ else .ok ()

mutual

/-- Check the depth of a listed set within `depth` constructs. -/
def SetTree.checkNesting (depth : Nat) : SetTree → Except Fault Unit
  | .empty _ => .ok ()
  | .atom _ => .ok ()
  | .interval _ _ _ => .ok ()
  | .named _ _ _ => .ok ()
  | .brackets span _ body =>
      match checkDepth (depth + 1) span with
      | .ok () => body.checkNesting (depth + 1)
      | .error fault => .error fault
  | .union span items =>
      match checkDepth (depth + 1) span with
      | .ok () => SetTree.checkAllNesting (depth + 1) items
      | .error fault => .error fault
  | .combined span _ left right =>
      match checkDepth (depth + 1) span with
      | .ok () =>
          match left.checkNesting (depth + 1) with
          | .ok () => right.checkNesting (depth + 1)
          | .error fault => .error fault
      | .error fault => .error fault

/-- Check the depth of listed sets from left to right. -/
def SetTree.checkAllNesting (depth : Nat) : List SetTree → Except Fault Unit
  | [] => .ok ()
  | item :: rest =>
      match item.checkNesting depth with
      | .ok () => SetTree.checkAllNesting depth rest
      | .error fault => .error fault

end

mutual

/-- Check the depth of an expression within `depth` constructs.  Characters, places, the dot,
escapes and settings of flags have no depth of their own. -/
def Tree.checkNesting (depth : Nat) : Tree → Except Fault Unit
  | .empty _ => .ok ()
  | .flags _ _ => .ok ()
  | .atom _ => .ok ()
  | .dot _ => .ok ()
  | .brackets span _ body =>
      match checkDepth (depth + 1) span with
      | .ok () => body.checkNesting (depth + 1)
      | .error fault => .error fault
  | .repeated span _ _ _ body =>
      match checkDepth (depth + 1) span with
      | .ok () => body.checkNesting (depth + 1)
      | .error fault => .error fault
  | .group span _ body =>
      match checkDepth (depth + 1) span with
      | .ok () => body.checkNesting (depth + 1)
      | .error fault => .error fault
  | .alternatives span branches =>
      match checkDepth (depth + 1) span with
      | .ok () => Tree.checkAllNesting (depth + 1) branches
      | .error fault => .error fault
  | .sequence span parts =>
      match checkDepth (depth + 1) span with
      | .ok () => Tree.checkAllNesting (depth + 1) parts
      | .error fault => .error fault

/-- Check the depth of expressions from left to right. -/
def Tree.checkAllNesting (depth : Nat) : List Tree → Except Fault Unit
  | [] => .ok ()
  | part :: rest =>
      match part.checkNesting depth with
      | .ok () => Tree.checkAllNesting depth rest
      | .error fault => .error fault

end

end PatternDraw.Regex
