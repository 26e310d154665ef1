/-!
# Sets of code points

A set is an ascending list of disjoint intervals of code points that do not touch.  It belongs
to a universe: all characters, whose code points leave out the surrogate gap, or the values of
a byte.  A set also knows whether it is closed under the case of letters for certain, which is
so for the empty set and for what is made from closed sets.
-/

namespace PatternDraw.Regex

/-- The universe of a set. -/
inductive Universe where
  /-- All characters. -/
  | chars
  /-- The values of a byte. -/
  | bytes
  deriving DecidableEq, Repr, Inhabited

namespace Universe

/-- The greatest member. -/
def last : Universe → Nat
  | chars => 0x10ffff
  | bytes => 0xff

/-- The member after a member. -/
def after (world : Universe) (code : Nat) : Nat :=
  if world = chars && code = 0xd7ff then 0xe000 else code + 1

/-- The member before a member. -/
def before (world : Universe) (code : Nat) : Nat :=
  if world = chars && code = 0xe000 then 0xd7ff else code - 1

end Universe

/-- The first and the last code point of an interval, both included. -/
abbrev Interval := Nat × Nat

namespace Interval

/-- The interval between two code points, whichever is less. -/
def between (code other : Nat) : Interval :=
  (min code other, max code other)

/-- Join intervals that overlap or touch, given in the order of their first members.  The
joined intervals before are given, the last one first. -/
def join : List Interval → List Interval → List Interval
  | joined, [] => joined.reverse
  | [], interval :: rest => join [interval] rest
  | (first, last) :: joined, interval :: rest =>
      if interval.1 ≤ last + 1 then join ((first, max last interval.2) :: joined) rest
      else join (interval :: (first, last) :: joined) rest

/-- Order intervals and join those that overlap or touch. -/
def normalize (intervals : List Interval) : List Interval :=
  join [] (intervals.mergeSort fun left right => left.1 ≤ right.1)

/-- The parts that two lists of intervals share.  Every step passes an interval, so that their
number bounds the steps; the parts found before are given, the last one first. -/
def shared : Nat → List Interval → List Interval → List Interval → List Interval
  | 0, found, _, _ => found.reverse
  | _ + 1, found, [], _ => found.reverse
  | _ + 1, found, _, [] => found.reverse
  | steps + 1, found, left :: lefts, right :: rights =>
      let first := max left.1 right.1
      let last := min left.2 right.2
      let found := if first ≤ last then (first, last) :: found else found
      if left.2 < right.2 then shared steps found lefts (right :: rights)
      else shared steps found (left :: lefts) rights

/-- The parts of the first list of intervals that are not in the second.  Every step passes an
interval; the parts found before are given, the last one first. -/
def without (world : Universe) :
    Nat → List Interval → List Interval → List Interval → List Interval
  | 0, found, lefts, _ => found.reverse ++ lefts
  | _ + 1, found, [], _ => found.reverse
  | _ + 1, found, lefts, [] => found.reverse ++ lefts
  | steps + 1, found, left :: lefts, right :: rights =>
      if right.2 < left.1 then without world steps found (left :: lefts) rights
      else if left.2 < right.1 then without world steps (left :: found) lefts (right :: rights)
      else
        let found := if left.1 < right.1 then (left.1, world.before right.1) :: found else found
        if right.2 < left.2 then
          without world steps found ((world.after right.2, left.2) :: lefts) rights
        else without world steps found lefts (right :: rights)

/-- The intervals between the given ones, and behind the last one up to the end of the
universe. -/
def gaps (world : Universe) : List Interval → List Interval
  | [] => []
  | [interval] =>
      if interval.2 < world.last then [(world.after interval.2, world.last)] else []
  | interval :: next :: rest =>
      between (world.after interval.2) (world.before next.1) :: gaps world (next :: rest)

/-- The variants of the letters of ASCII in an interval, in the other case. -/
def caseVariants (interval : Interval) : List Interval :=
  let lower := (max interval.1 0x61, min interval.2 0x7a)
  let upper := (max interval.1 0x41, min interval.2 0x5a)
  (if lower.1 ≤ lower.2 then [(lower.1 - 0x20, lower.2 - 0x20)] else []) ++
    if upper.1 ≤ upper.2 then [(upper.1 + 0x20, upper.2 + 0x20)] else []

end Interval

/-- A set of code points. -/
structure CharSet where
  /-- The intervals, in ascending order. -/
  intervals : List Interval
  /-- Whether the set is closed under the case of letters for certain. -/
  caseClosed : Bool
  deriving DecidableEq, Repr, Inhabited

namespace CharSet

/-- The set without members. -/
def empty : CharSet :=
  ⟨[], true⟩

/-- The set of the members of some intervals. -/
def ofIntervals (intervals : List Interval) : CharSet :=
  ⟨Interval.normalize intervals, intervals.isEmpty⟩

/-- Whether a set has no members. -/
def isEmpty (set : CharSet) : Bool :=
  set.intervals.isEmpty

/-- Whether a set has members of ASCII only. -/
def isAscii (set : CharSet) : Bool :=
  set.intervals.all fun interval => decide (interval.2 < 0x80)

/-- The members of either set. -/
def union (left right : CharSet) : CharSet :=
  if right.isEmpty || left.intervals == right.intervals then left
  else ⟨Interval.normalize (left.intervals ++ right.intervals),
    left.caseClosed && right.caseClosed⟩

/-- The members of both sets. -/
def inter (left right : CharSet) : CharSet :=
  if left.isEmpty then left
  else if right.isEmpty then empty
  else
    let steps := left.intervals.length + right.intervals.length
    ⟨Interval.shared steps [] left.intervals right.intervals,
      left.caseClosed && right.caseClosed⟩

/-- The members of the first set that are not in the second. -/
def difference (world : Universe) (left right : CharSet) : CharSet :=
  if left.isEmpty || right.isEmpty then left
  else
    let steps := 2 * (left.intervals.length + right.intervals.length)
    ⟨Interval.without world steps [] left.intervals right.intervals,
      left.caseClosed && right.caseClosed⟩

/-- The members of one set or the other, but not of both. -/
def symmetricDifference (world : Universe) (left right : CharSet) : CharSet :=
  (left.union right).difference world (left.inter right)

/-- The members of the universe that are not in a set. -/
def complement (world : Universe) (set : CharSet) : CharSet :=
  match set.intervals with
  | [] => ⟨[(0, world.last)], true⟩
  | interval :: rest =>
      let start := if 0 < interval.1 then [(0, world.before interval.1)] else []
      ⟨start ++ Interval.gaps world (interval :: rest), set.caseClosed⟩

/-- A set of bytes with the letters of ASCII in both cases. -/
def foldCase (set : CharSet) : CharSet :=
  if set.caseClosed then set
  else
    ⟨Interval.normalize (set.intervals ++ set.intervals.flatMap Interval.caseVariants), true⟩

end CharSet

end PatternDraw.Regex
