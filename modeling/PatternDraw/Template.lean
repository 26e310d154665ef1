import PatternDraw.Alphabet.Choice

/-!
# Templates

A template has one slot for every position of a text.  To draw a text is to choose one member
of every slot, each with one draw, from left to right.
-/

namespace PatternDraw

/-- One position of a text: its candidates, and where in the pattern they are written. -/
structure Slot where
  /-- The candidates for the position. -/
  alphabet : Alphabet
  /-- The offset of the construct that lists them. -/
  offset : Nat
  deriving DecidableEq, Repr, Inhabited

/-- The positions of a text, in order. -/
structure Template where
  /-- The slots in order. -/
  slots : Array Slot
  deriving DecidableEq, Repr, Inhabited

namespace Template

/-! ## Building templates -/

/-- The template of the empty text. -/
def empty : Template :=
  ⟨#[]⟩

/-- The template with one more slot. -/
def push (template : Template) (slot : Slot) : Template :=
  ⟨template.slots.push slot⟩

/-- The last slot, if there is one. -/
def last? (template : Template) : Option Slot :=
  template.slots.back?

/-- The template with `count` copies of the given slot in place of its last slot. -/
def replaceLast (template : Template) (count : Nat) (slot : Slot) : Template :=
  ⟨template.slots.pop ++ Array.replicate count slot⟩

/-! ## Looking into templates -/

/-- The slots as a list. -/
def toList (template : Template) : List Slot :=
  template.slots.toList

/-- The number of slots. -/
def size (template : Template) : Nat :=
  template.slots.size

/-- Whether there is no slot. -/
def isEmpty (template : Template) : Bool :=
  template.slots.isEmpty

/-- The slot at an index. -/
def get? (template : Template) (index : Nat) : Option Slot :=
  template.slots[index]?

@[simp]
theorem toList_empty : empty.toList = [] :=
  rfl

@[simp]
theorem toList_push (template : Template) (slot : Slot) :
    (template.push slot).toList = template.toList ++ [slot] := by
  simp [push, toList]

@[simp]
theorem toList_replaceLast (template : Template) (count : Nat) (slot : Slot) :
    (template.replaceLast count slot).toList =
      template.toList.dropLast ++ List.replicate count slot := by
  simp [replaceLast, toList]

@[simp]
theorem length_toList (template : Template) : template.toList.length = template.size := by
  simp [toList, size]

/-! ## Drawing texts -/

variable {σ : Type} [EntropySource σ]

/-- Draw a text: one character for each slot in order. -/
def draw (template : Template) (source : σ) : String × σ :=
  template.slots.foldl (fun drawn slot => slot.alphabet.extend drawn.1 drawn.2) ("", source)

/-- Draw a number of texts, one after the other. -/
def drawMany (template : Template) : Nat → σ → List String × σ
  | 0, source => ([], source)
  | count + 1, source =>
      let (text, source) := template.draw source
      let (texts, source) := drawMany template count source
      (text :: texts, source)

end Template

end PatternDraw
