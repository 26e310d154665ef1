import PatternDraw.Regex.Construction

/-!
# Searching

A text is read byte by byte.  At each place the automaton may be at several nodes at once: those
that the last byte led to, and the node where a match starts.  What such a set of nodes leads to
depends on the bytes around the place only and is remembered, so that a text is read fast.
-/

namespace PatternDraw.Regex

/-! ## Conditions on places -/

namespace Look

/-- Whether a neighbour of a place is a word character of ASCII. -/
def isWordByte (neighbour : Option Nat) : Bool :=
  neighbour.any fun byte =>
    decide (0x30 ≤ byte) && decide (byte ≤ 0x39) || decide (0x41 ≤ byte) && decide (byte ≤ 0x5a) ||
      decide (byte = 0x5f) || decide (0x61 ≤ byte) && decide (byte ≤ 0x7a)

/-- Whether a condition on words holds between two neighbours. -/
def wordsHold (condition : WordCondition) (before after : Option Nat) : Bool :=
  match condition with
  | .boundary => isWordByte before != isWordByte after
  | .noBoundary => isWordByte before == isWordByte after
  | .start => !isWordByte before && isWordByte after
  | .stop => isWordByte before && !isWordByte after
  | .noneBefore => !isWordByte before
  | .noneAfter => !isWordByte after

/-- Whether a condition holds between two neighbours.  A carriage return and a line feed end a
line together. -/
def holds (before after : Option Nat) (condition : Look) : Bool :=
  match condition with
  | textStart => before.isNone
  | textEnd => after.isNone
  | lineStart => before.all (· == 0x0a)
  | lineEnd => after.all (· == 0x0a)
  | anyLineStart => before.all fun byte => byte == 0x0a || byte == 0x0d && after != some 0x0a
  | anyLineEnd => after.all fun byte => byte == 0x0d || byte == 0x0a && before != some 0x0d
  | words condition _ => wordsHold condition before after

end Look

/-! ## Sets of nodes -/

/-- The nodes that were met, by the number of the last walk that met them. -/
structure Walk where
  /-- The last walk that met each node. -/
  met : Array Nat
  /-- The number of the walk. -/
  number : Nat
  /-- Whether the search has succeeded. -/
  succeeded : Bool
  /-- The nodes that were met and take a byte, the last one first. -/
  takers : List Nat

namespace Automaton

/-- The nodes that a node goes on with at a place between two neighbours. -/
def goesOnWith (before after : Option Nat) : Node → List Nat
  | .jump next => [next]
  | .look condition next => if condition.holds before after then [next] else []
  | .fork branches => branches.toList
  | .step _ => []
  | .table _ => []
  | .accept => []

/-- Walk from the given nodes without taking a byte.  Every step meets a node for the first time,
so that the number of nodes bounds the steps. -/
def walk (nodes : Array Node) (before after : Option Nat) : Nat → List Nat → Walk → Walk
  | 0, _, state => state
  | steps + 1, pending, ⟨met, number, succeeded, takers⟩ =>
      match pending.dropWhile fun node => met.getD node number == number with
      | [] => ⟨met, number, succeeded, takers⟩
      | node :: rest =>
          let met := met.setIfInBounds node number
          match nodes.getD node .accept with
          | .accept => walk nodes before after steps rest ⟨met, number, true, takers⟩
          | .step _ => walk nodes before after steps rest ⟨met, number, succeeded, node :: takers⟩
          | .table _ => walk nodes before after steps rest ⟨met, number, succeeded, node :: takers⟩
          | found =>
              walk nodes before after steps (goesOnWith before after found ++ rest)
                ⟨met, number, succeeded, takers⟩

/-- The node that a node leads to by taking a byte. -/
def taking? (byte : Nat) (node : Node) : Option Nat :=
  match node with
  | .step arrow => if arrow.first ≤ byte && byte ≤ arrow.last then some arrow.next else none
  | .table arrows =>
      (arrows.find? fun arrow => decide (arrow.first ≤ byte) && decide (byte ≤ arrow.last)).map
        Arrow.next
  | _ => none

end Automaton

/-! ## What is remembered -/

/-- What is known of the sets of nodes that were met. -/
structure Knowledge where
  /-- The numbers of the sets. -/
  numbers : Std.HashMap (List Nat) Nat
  /-- The sets by their numbers. -/
  sets : Array (List Nat)
  /-- The number of all members of all sets. -/
  weight : Nat
  /-- Where a set leads, by its number and the bytes around the place: to a further set, or to
  success. -/
  ways : Std.HashMap Nat (Option Nat)
  /-- The nodes met in the last walk. -/
  met : Array Nat
  /-- The number of walks. -/
  walks : Nat

namespace Knowledge

/-- Nothing is known of the sets of an automaton with the given number of nodes. -/
def initial (size : Nat) : Knowledge :=
  ⟨∅, #[], 0, ∅, Array.replicate size 0, 0⟩

/-- The number of members up to which sets are remembered. -/
def weightLimit : Nat :=
  1000000

/-- Give a set a number, if it has none.  What is known is given up when it becomes too much. -/
def number (set : List Nat) : Knowledge → Nat × Knowledge
  | ⟨numbers, sets, weight, ways, met, walks⟩ =>
      match numbers[set]? with
      | some number => (number, ⟨numbers, sets, weight, ways, met, walks⟩)
      | none =>
          let weight := weight + set.length + 1
          if weightLimit < weight then
            (0, ⟨(∅ : Std.HashMap _ _).insert set 0, #[set], set.length + 1, ∅, met, walks⟩)
          else
            let number := sets.size
            (number, ⟨numbers.insert set number, sets.push set, weight, ways, met, walks⟩)

/-- A neighbour as far as conditions can tell. -/
def neighbourKind (neighbour : Option Nat) : Option Nat :=
  neighbour.map fun byte =>
    if byte = 0x0a || byte = 0x0d then byte
    else if Look.isWordByte (some byte) then 0x61 else 0x20

/-- A number for a set between two neighbours. -/
def key (set : Nat) (before after : Option Nat) : Nat :=
  (set * 0x200 + before.elim 0x100 id) * 0x200 + after.elim 0x100 id

end Knowledge

namespace Automaton

/-- Whether the byte behind a place continues the character before the place. -/
def isContinuation (after : Option Nat) : Bool :=
  after.any fun byte => byte / 0x40 == 2

/-- Where a set of nodes leads at a place between two neighbours.  A match may end at the end of
a character only. -/
def leads (automaton : Automaton) (set : Nat) (before after : Option Nat) :
    Knowledge → Option Nat × Knowledge
  | ⟨numbers, sets, weight, ways, met, walks⟩ =>
      let key := Knowledge.key set before after
      match ways[key]? with
      | some way => (way, ⟨numbers, sets, weight, ways, met, walks⟩)
      | none =>
          let members := automaton.start :: sets.getD set []
          let steps := automaton.nodes.size + 1
          let start : Walk := ⟨met, walks + 1, false, []⟩
          let ⟨met, walks, succeeded, takers⟩ :=
            walk automaton.nodes before after steps members start
          if succeeded && !isContinuation after then
            (none, ⟨numbers, sets, weight, ways.insert key none, met, walks⟩)
          else
            let next :=
              match after with
              | none => []
              | some byte =>
                  takers.reverse.filterMap fun node =>
                    taking? byte (automaton.nodes.getD node .accept)
            let (number, ⟨numbers, sets, weight, ways, met, walks⟩) :=
              Knowledge.number next ⟨numbers, sets, weight, ways, met, walks⟩
            (some number, ⟨numbers, sets, weight, ways.insert key (some number), met, walks⟩)

/-- Whether a match ends at a place or behind it, given the byte before the place. -/
def findsFrom (automaton : Automaton) (before : Option Nat) :
    List Nat → Nat → Knowledge → Bool
  | [], set, knowledge => (automaton.leads set before none knowledge).1.isNone
  | byte :: rest, set, knowledge =>
      match automaton.leads set before (some byte) knowledge with
      | (none, _) => true
      | (some next, knowledge) =>
          automaton.findsFrom (Knowledge.neighbourKind (some byte)) rest next knowledge

/-- Whether some stretch of a text matches. -/
def finds (automaton : Automaton) (text : String) : Bool :=
  let bytes := text.toList.flatMap fun ch => Text.ByteRanges.encode ch.toNat
  let (set, knowledge) := Knowledge.number [] (.initial automaton.nodes.size)
  automaton.findsFrom none bytes set knowledge

end Automaton

end PatternDraw.Regex
