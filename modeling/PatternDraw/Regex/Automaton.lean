import PatternDraw.Regex.Expression
import PatternDraw.Text.ByteRanges
import Std.Data.HashMap

/-!
# Automata

An automaton has numbered nodes.  At some nodes it takes a byte of the text, at others it only
goes on.  A draft is an automaton that is being made; it may take up so much memory and no more,
and adding to it fails as soon as it would take up more.
-/

namespace PatternDraw.Regex

open Text (ByteRange)

/-- A way to another node, which takes a byte between two values, both included. -/
structure Arrow where
  /-- The least byte that is taken. -/
  first : Nat
  /-- The greatest byte that is taken. -/
  last : Nat
  /-- The node that is reached. -/
  next : Nat
  deriving DecidableEq, Repr, Inhabited

/-- A node of an automaton. -/
inductive Node where
  /-- Go on with a node. -/
  | jump (next : Nat)
  /-- Take a byte. -/
  | step (arrow : Arrow)
  /-- Take a byte, the first arrow for it counting. -/
  | table (arrows : List Arrow)
  /-- Go on with a node if a condition holds. -/
  | look (condition : Look) (next : Nat)
  /-- Go on with any of the nodes. -/
  | fork (branches : Array Nat)
  /-- The search has succeeded. -/
  | accept
  deriving Repr, Inhabited

namespace Node

/-- The memory that the lists of a node take up, in bytes. -/
def memory : Node → Nat
  | table arrows => 8 * arrows.length
  | fork branches => 4 * branches.size
  | _ => 0

/-- The node with a further way to go on, or with the way that was left open. -/
def extended (target : Nat) : Node → Node
  | jump _ => jump target
  | step arrow => step { arrow with next := target }
  | table arrows => table arrows
  | look condition _ => look condition target
  | fork branches => fork (branches.push target)
  | accept => accept

end Node

/-- An automaton that is being made. -/
structure Draft where
  /-- The nodes. -/
  nodes : Array Node
  /-- The memory that the lists of the nodes take up, in bytes. -/
  lists : Nat
  deriving Inhabited

namespace Draft

/-- The memory that an automaton may take up, in bytes. -/
def memoryLimit : Nat :=
  10 * 1024 * 1024

/-- The memory that a node takes up besides its lists, in bytes. -/
def nodeMemory : Nat :=
  32

/-- The draft without nodes. -/
def empty : Draft :=
  ⟨#[], 0⟩

/-- The draft, if it does not take up too much memory. -/
def check (draft : Draft) : Option Draft :=
  if draft.nodes.size * nodeMemory + draft.lists ≤ memoryLimit then some draft else none

/-- Add a node; the result has its number. -/
def add (draft : Draft) (node : Node) : Option (Nat × Draft) :=
  let ⟨nodes, lists⟩ := draft
  let number := nodes.size
  match check ⟨nodes.push node, lists + node.memory⟩ with
  | some draft => some (number, draft)
  | none => none

/-- Whether a node is a fork. -/
def isFork (nodes : Array Node) (number : Nat) : Bool :=
  match nodes[number]? with
  | some (.fork _) => true
  | _ => false

/-- Let a node go on with another one. -/
def connect (draft : Draft) (number target : Nat) : Option Draft :=
  let ⟨nodes, lists⟩ := draft
  let lists := if isFork nodes number then lists + 4 else lists
  check ⟨nodes.modify number (Node.extended target), lists⟩

end Draft

/-- A part of an automaton: the node where it starts and the node from which it goes on. -/
structure Part where
  /-- The first node. -/
  start : Nat
  /-- The last node. -/
  stop : Nat
  deriving DecidableEq, Repr, Inhabited

/-- A way to add a part to a draft. -/
abbrev Build := Draft → Option (Part × Draft)

/-- Whether the text is read from its start or from its end. -/
inductive Direction where
  | forward
  | backward
  deriving DecidableEq, Repr, Inhabited

namespace Build

/-! ## Single nodes and sequences -/

/-- A single node. -/
def node (node : Node) : Build := fun draft => do
  let (number, draft) ← draft.add node
  return (⟨number, number⟩, draft)

/-- A node that goes on and nothing else. -/
def blank : Build :=
  node (.jump 0)

/-- A part, then another one behind it. -/
def before (part : Part) (next : Build) : Build := fun draft => do
  let (other, draft) ← next draft
  let draft ← draft.connect part.stop other.start
  return (⟨part.start, other.stop⟩, draft)

/-- A part, then several copies of another one behind it. -/
def beforeCopies (body : Build) : Nat → Part → Build
  | 0, part, draft => some (part, draft)
  | count + 1, part, draft =>
      match before part body draft with
      | some (part, draft) => beforeCopies body count part draft
      | none => none

/-- The given number of copies of a part, one behind the other. -/
def copies (body : Build) : Nat → Build
  | 0, draft => blank draft
  | count + 1, draft =>
      match body draft with
      | some (part, draft) => beforeCopies body count part draft
      | none => none

/-- A part, then nodes that take one byte each. -/
def beforeBytes : List Nat → Part → Build
  | [], part, draft => some (part, draft)
  | byte :: rest, part, draft =>
      match before part (node (.step ⟨byte, byte, 0⟩)) draft with
      | some (part, draft) => beforeBytes rest part draft
      | none => none

/-- Nodes that take one byte each. -/
def bytes : List Nat → Build
  | [], draft => blank draft
  | byte :: rest, draft =>
      match node (.step ⟨byte, byte, 0⟩) draft with
      | some (part, draft) => beforeBytes rest part draft
      | none => none

/-! ## Repetitions -/

/-- A part, or nothing. -/
def optional (body : Build) : Build := fun draft => do
  let (fork, draft) ← draft.add (.fork #[])
  let (part, draft) ← body draft
  let (stop, draft) ← draft.add (.jump 0)
  let draft ← draft.connect fork part.start
  let draft ← draft.connect fork stop
  let draft ← draft.connect part.stop stop
  return (⟨fork, stop⟩, draft)

/-- Any number of copies of a part that takes a byte at least. -/
def many (body : Build) : Build := fun draft => do
  let (fork, draft) ← draft.add (.fork #[])
  let (part, draft) ← body draft
  let draft ← draft.connect fork part.start
  let draft ← draft.connect part.stop fork
  return (⟨fork, fork⟩, draft)

/-- Any number of copies of a part that may take nothing. -/
def manyBlank (body : Build) : Build := fun draft => do
  let (part, draft) ← body draft
  let (again, draft) ← draft.add (.fork #[])
  let draft ← draft.connect part.stop again
  let draft ← draft.connect again part.start
  let (fork, draft) ← draft.add (.fork #[])
  let (stop, draft) ← draft.add (.jump 0)
  let draft ← draft.connect fork part.start
  let draft ← draft.connect fork stop
  let draft ← draft.connect again stop
  return (⟨fork, stop⟩, draft)

/-- One or more copies of a part. -/
def oneOrMore (body : Build) : Build := fun draft => do
  let (part, draft) ← body draft
  let (again, draft) ← draft.add (.fork #[])
  let draft ← draft.connect part.stop again
  let draft ← draft.connect again part.start
  return (⟨part.start, again⟩, draft)

/-- At least `least` copies of a part, which takes a byte at least or may take nothing. -/
def atLeast (takesByte : Bool) (body : Build) (least : Nat) : Build :=
  match least with
  | 0 => if takesByte then many body else manyBlank body
  | 1 => oneOrMore body
  | least => fun draft => do
      let (front, draft) ← copies body (least - 1) draft
      let (last, draft) ← body draft
      let (again, draft) ← draft.add (.fork #[])
      let draft ← draft.connect front.stop last.start
      let draft ← draft.connect last.stop again
      let draft ← draft.connect again last.start
      return (⟨front.start, again⟩, draft)

/-- Up to the given number of copies of a part between two nodes; each may be the last one.
The result has the node behind the last copy. -/
def upTo (body : Build) (stop : Nat) : Nat → Nat → Draft → Option (Nat × Draft)
  | 0, last, draft => some (last, draft)
  | count + 1, last, draft =>
      let added := do
        let (fork, draft) ← draft.add (.fork #[])
        let (part, draft) ← body draft
        let draft ← draft.connect last fork
        let draft ← draft.connect fork part.start
        let draft ← draft.connect fork stop
        return (part.stop, draft)
      match added with
      | some (last, draft) => upTo body stop count last draft
      | none => none

/-- Between `least` and `most` copies of a part. -/
def between (body : Build) (least most : Nat) : Build := fun draft => do
  let (front, draft) ← copies body least draft
  let (stop, draft) ← draft.add (.jump 0)
  let (last, draft) ← upTo body stop (most - least) front.stop draft
  let draft ← draft.connect last stop
  return (⟨front.start, stop⟩, draft)

/-- A repetition with bounds on its count. -/
def repeated (takesByte : Bool) (body : Build) (least : Nat) (most : Option Nat) : Build :=
  match most with
  | none => atLeast takesByte body least
  | some most =>
      if least = 0 && most = 1 then optional body
      else if least = most then copies body least
      else between body least most

/-! ## Choices -/

/-- Let a fork go on with a part, and the part with the node where the choice ends. -/
def joinBranch (fork stop : Nat) (part : Part) (draft : Draft) : Option Draft := do
  let draft ← draft.connect fork part.start
  draft.connect part.stop stop

/-- The fork and the end of a choice between two parts. -/
def eitherOf (left right : Part) : Build := fun draft => do
  let (fork, draft) ← draft.add (.fork #[])
  let (stop, draft) ← draft.add (.jump 0)
  let draft ← joinBranch fork stop left draft
  let draft ← joinBranch fork stop right draft
  return (⟨fork, stop⟩, draft)

/-! ## Sets -/

/-- One node that takes a byte of some ranges. -/
def byteSet (ranges : List ByteRange) : Build := fun draft => do
  let (stop, draft) ← draft.add (.jump 0)
  let (start, draft) ← draft.add (.table (ranges.map fun range => ⟨range.1, range.2, stop⟩))
  return (⟨start, stop⟩, draft)

/-- Mix a number into a hash. -/
def mix (hash : UInt64) (number : Nat) : UInt64 :=
  (hash ^^^ number.toUInt64) * 1099511628211

/-- The hash that nothing has been mixed into. -/
def emptyHash : UInt64 :=
  14695981039346656037

/-- Nodes that can be used again.  Each is kept in one of a fixed number of slots, where it
takes the place of the one that was there. -/
structure Memory (κ : Type) where
  /-- What the slots hold: a description of a node, and its number. -/
  slots : Std.HashMap Nat (κ × Nat)

namespace Memory

/-- Nothing is remembered. -/
def empty {κ : Type} : Memory κ :=
  ⟨∅⟩

/-- The node with the given description, if its slot holds it. -/
def find? {κ : Type} [BEq κ] (memory : Memory κ) (slot : Nat) (key : κ) : Option Nat :=
  match memory.slots[slot]? with
  | some (known, number) => if known == key then some number else none
  | none => none

/-- Remember a node. -/
def insert {κ : Type} (memory : Memory κ) (slot : Nat) (key : κ) (number : Nat) : Memory κ :=
  ⟨memory.slots.insert slot (key, number)⟩

end Memory

/-- A draft with the nodes for sets of bytes that can be used again. -/
structure SetDraft where
  /-- The nodes by their arrows. -/
  memory : Memory (List Arrow)
  /-- The draft. -/
  draft : Draft

/-- The slot of a node with the given arrows. -/
def tableSlot (arrows : List Arrow) : Nat :=
  let hash := arrows.foldl (fun hash arrow =>
    mix (mix (mix hash arrow.first) arrow.last) arrow.next) emptyHash
  (hash % 10000).toNat

/-- A node with the given arrows, a known one if possible. -/
def sharedTable (arrows : List Arrow) : SetDraft → Option (Nat × SetDraft)
  | ⟨memory, draft⟩ =>
      let slot := tableSlot arrows
      match memory.find? slot arrows with
      | some number => some (number, ⟨memory, draft⟩)
      | none =>
          match draft.add (.table arrows) with
          | some (number, draft) => some (number, ⟨memory.insert slot arrows number, draft⟩)
          | none => none

/-- Products of byte ranges by their first range, where neighbours have it in common.  The
groups before are given, the last one and its last product first. -/
def groupByFirst : List (ByteRange × List (List ByteRange)) → List (List ByteRange) →
    List (ByteRange × List (List ByteRange))
  | groups, [] => (groups.map fun group => (group.1, group.2.reverse)).reverse
  | groups, [] :: rest => groupByFirst groups rest
  | [], (range :: ranges) :: rest => groupByFirst [(range, [ranges])] rest
  | (known, tails) :: groups, (range :: ranges) :: rest =>
      if known = range then groupByFirst ((known, ranges :: tails) :: groups) rest
      else groupByFirst ((range, [ranges]) :: (known, tails) :: groups) rest

/-- The arrows for products of at most `depth` byte ranges, which all lead to `stop`. -/
def productArrows (stop : Nat) :
    Nat → List (List ByteRange) → SetDraft → Option (List Arrow × SetDraft)
  | 0, _, state => some ([], state)
  | depth + 1, products, state => do
      let (reversed, state) ← (groupByFirst [] products).foldlM (fun (arrows, state) group => do
        if group.2 == [[]] then
          return (⟨group.1.1, group.1.2, stop⟩ :: arrows, state)
        else
          let (inner, state) ← productArrows stop depth group.2 state
          let (number, state) ← sharedTable inner state
          return (⟨group.1.1, group.1.2, number⟩ :: arrows, state)) (([] : List Arrow), state)
      return (reversed.reverse, state)

/-- The products of byte ranges that some intervals of characters consist of. -/
def products (intervals : List Interval) : List (List ByteRange) :=
  intervals.flatMap fun interval => Text.ByteRanges.ofInterval interval.1 interval.2

/-- Nodes that take a character of some intervals from its first byte on. -/
def charSetForward (intervals : List Interval) : Build := fun draft => do
  let (stop, draft) ← draft.add (.jump 0)
  let (arrows, state) ← productArrows stop 4 (products intervals) ⟨.empty, draft⟩
  let (start, state) ← sharedTable arrows state
  return (⟨start, stop⟩, state.draft)

/-- A draft with the nodes for single bytes that can be used again. -/
structure StepDraft where
  /-- The nodes by their arrows. -/
  memory : Memory Arrow
  /-- The draft. -/
  draft : Draft

/-- The slot of a node with the given arrow. -/
def stepSlot (arrow : Arrow) : Nat :=
  (mix (mix (mix emptyHash arrow.next) arrow.first) arrow.last % 1000).toNat

/-- A node with the given arrow, a known one if possible. -/
def sharedStep (arrow : Arrow) : StepDraft → Option (Nat × StepDraft)
  | ⟨memory, draft⟩ =>
      let slot := stepSlot arrow
      match memory.find? slot arrow with
      | some number => some (number, ⟨memory, draft⟩)
      | none =>
          match draft.add (.step arrow) with
          | some (number, draft) => some (number, ⟨memory.insert slot arrow number, draft⟩)
          | none => none

/-- Let a fork go on with a node. -/
def StepDraft.connect (fork start : Nat) : StepDraft → Option StepDraft
  | ⟨memory, draft⟩ =>
      match draft.connect fork start with
      | some draft => some ⟨memory, draft⟩
      | none => none

/-- Nodes that take a character of a product from its last byte on and then go on with a
node. -/
def productBackward (product : List ByteRange) (stop : Nat) (state : StepDraft) :
    Option (Nat × StepDraft) :=
  product.foldlM (fun (next, state) range => sharedStep ⟨range.1, range.2, next⟩ state)
    (stop, state)

/-- Nodes that take a character of some intervals from its last byte on. -/
def charSetBackward (intervals : List Interval) : Build := fun draft => do
  let (fork, draft) ← draft.add (.fork #[])
  let (stop, draft) ← draft.add (.jump 0)
  let state ← (products intervals).foldlM (fun state product => do
    let (start, state) ← productBackward product stop state
    state.connect fork start)
    (⟨.empty, draft⟩ : StepDraft)
  return (⟨fork, stop⟩, state.draft)

/-- Nodes that take a member of a set. -/
def set (direction : Direction) (world : Universe) (intervals : List Interval) : Build :=
  if world = .bytes || intervals.all fun interval => decide (interval.2 < 0x80) then
    byteSet intervals
  else
    match direction with
    | .forward => charSetForward intervals
    | .backward => charSetBackward intervals

/-! ## Choices between texts -/

/-- A place in texts that are merged where they start alike.  A text that ends here closes the
list of ways on; what comes later and goes on gets a new one. -/
structure Crossing where
  /-- The closed lists of ways on, the last one first. -/
  closed : List (List (Nat × Nat))
  /-- The bytes that may follow, in ascending order, and where they lead. -/
  current : List (Nat × Nat)
  deriving DecidableEq, Repr, Inhabited

namespace Crossing

/-- Whether no text goes on. -/
def isLeaf (crossing : Crossing) : Bool :=
  crossing.current.isEmpty && crossing.closed.all List.isEmpty

/-- Let a text end. -/
def close (crossing : Crossing) : Crossing :=
  if crossing.isLeaf && !crossing.closed.isEmpty then crossing
  else ⟨crossing.current :: crossing.closed, []⟩

/-- Put a way into an ascending list. -/
def insertWay (way : Nat × Nat) : List (Nat × Nat) → List (Nat × Nat)
  | [] => [way]
  | other :: rest =>
      if way.1 < other.1 then way :: other :: rest else other :: insertWay way rest

end Crossing

/-- Add a text, of which the given bytes are left, from a crossing on. -/
def addText (crossings : Array Crossing) (number : Nat) : List Nat → Array Crossing
  | [] => crossings.modify number Crossing.close
  | byte :: rest =>
      match (crossings.getD number default).current.lookup byte with
      | some next => addText crossings next rest
      | none =>
          let next := crossings.size
          let crossings := crossings.modify number fun crossing =>
            { crossing with current := Crossing.insertWay (byte, next) crossing.current }
          addText (crossings.push default) next rest

/-- The arrows for a list of ways on; those to crossings where all texts end lead to `stop`. -/
def wayArrows (stop : Nat) (starts : Array (Option Nat)) (ways : List (Nat × Nat)) :
    List Arrow :=
  ways.map fun way => ⟨way.1, way.1, ((starts.getD way.2 none).getD stop)⟩

/-- Nodes for the lists of ways on at a crossing.  Between two lists stands the end.  The
branches found before are given. -/
def crossingBranches (stop : Nat) (starts : Array (Option Nat)) :
    Array Nat → List (List (Nat × Nat)) → Draft → Option (Array Nat × Draft)
  | branches, [], draft => some (branches, draft)
  | branches, ways :: rest, draft =>
      let added :=
        match wayArrows stop starts ways with
        | [] => some (branches, draft)
        | [arrow] => (draft.add (.step arrow)).map fun (number, draft) =>
            (branches.push number, draft)
        | arrows => (draft.add (.table arrows)).map fun (number, draft) =>
            (branches.push number, draft)
      match added with
      | some (branches, draft) =>
          let branches := if rest.isEmpty then branches else branches.push stop
          crossingBranches stop starts branches rest draft
      | none => none

/-- Nodes for a crossing where some text goes on, and the number of the first one. -/
def crossingNode (stop : Nat) (starts : Array (Option Nat)) (crossing : Crossing)
    (draft : Draft) : Option (Nat × Draft) := do
  let lists := (crossing.current :: crossing.closed).reverse
  let (branches, draft) ← crossingBranches stop starts #[] lists draft
  draft.add (.fork branches)

/-- Nodes for the first crossings, from the last of them to the first.  Texts lead from a
crossing to a later one only. -/
def crossingNodes (stop : Nat) (crossings : Array Crossing) :
    Nat → Array (Option Nat) → Draft → Option (Array (Option Nat) × Draft)
  | 0, starts, draft => some (starts, draft)
  | count + 1, starts, draft =>
      let crossing := crossings.getD count default
      if crossing.isLeaf then crossingNodes stop crossings count starts draft
      else
        match crossingNode stop starts crossing draft with
        | some (number, draft) =>
            crossingNodes stop crossings count (starts.setIfInBounds count number) draft
        | none => none

/-- Nodes that take one of several texts. -/
def oneOfTexts (texts : List (List Nat)) : Build := fun draft => do
  let (stop, draft) ← draft.add (.jump 0)
  let crossings := texts.foldl (fun crossings text => addText crossings 0 text) #[default]
  let starts : Array (Option Nat) := Array.replicate crossings.size none
  let (starts, draft) ← crossingNodes stop crossings crossings.size starts draft
  return (⟨(starts.getD 0 none).getD stop, stop⟩, draft)

end Build

end PatternDraw.Regex
