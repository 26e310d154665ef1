import PatternDraw.Text.Escaped
import PatternDraw.Text.Scalar

/-!
# Alphabets

An alphabet is the list of characters from which one position of a text is drawn.  Order and
repetitions count: the member at a drawn index is chosen, so a character that is listed twice
is twice as likely.
-/

namespace PatternDraw

/-- The candidates for one position, in order, repetitions kept. -/
structure Alphabet where
  /-- The candidates in order. -/
  members : Array Char
  deriving DecidableEq, Repr, Inhabited

namespace Alphabet

/-! ## Building alphabets -/

/-- The alphabet of the given candidates. -/
def ofList (members : List Char) : Alphabet :=
  ⟨members.toArray⟩

/-- The alphabet of the characters of a text. -/
def ofString (members : String) : Alphabet :=
  ofList members.toList

/-- The alphabet of one character. -/
def single (ch : Char) : Alphabet :=
  ⟨#[ch]⟩

/-- The characters from code point `first` to code point `last`, ascending. -/
def interval (first last : Nat) : Alphabet :=
  ⟨Text.appendInterval #[] first last⟩

/-- The members of one alphabet followed by those of another. -/
def append (first second : Alphabet) : Alphabet :=
  ⟨first.members ++ second.members⟩

instance : Append Alphabet :=
  ⟨append⟩

/-- The members of several alphabets, one after the other. -/
def union (parts : List Alphabet) : Alphabet :=
  parts.foldl append ⟨#[]⟩

/-- The members other than the given character. -/
def without (alphabet : Alphabet) (ch : Char) : Alphabet :=
  ⟨alphabet.members.filter (fun candidate => candidate != ch)⟩

/-! ## Looking into alphabets -/

/-- The candidates as a list. -/
def toList (alphabet : Alphabet) : List Char :=
  alphabet.members.toList

/-- The number of candidates, repetitions counted. -/
def size (alphabet : Alphabet) : Nat :=
  alphabet.members.size

/-- Whether there is no candidate. -/
def isEmpty (alphabet : Alphabet) : Bool :=
  alphabet.members.isEmpty

/-- The candidate at an index. -/
def get? (alphabet : Alphabet) (index : Nat) : Option Char :=
  alphabet.members[index]?

/-- How often a character is listed. -/
def count (alphabet : Alphabet) (ch : Char) : Nat :=
  alphabet.members.count ch

instance : Membership Char Alphabet where
  mem alphabet ch := ch ∈ alphabet.members

/-- The members in square brackets, each escaped. -/
def render (alphabet : Alphabet) : String :=
  String.ofList ('[' :: alphabet.toList.flatMap Text.escapeAlone ++ [']'])

/-! ## The list of candidates -/

@[simp]
theorem toList_ofList (members : List Char) : (ofList members).toList = members := by
  simp [ofList, toList]

@[simp]
theorem toList_single (ch : Char) : (single ch).toList = [ch] :=
  rfl

@[simp]
theorem toList_append (first second : Alphabet) :
    (first.append second).toList = first.toList ++ second.toList := by
  simp [append, toList]

@[simp]
theorem toList_without (alphabet : Alphabet) (ch : Char) :
    (alphabet.without ch).toList = alphabet.toList.filter (fun candidate => candidate != ch) := by
  simp [without, toList]

@[simp]
theorem length_toList (alphabet : Alphabet) : alphabet.toList.length = alphabet.size := by
  simp [toList, size]

theorem size_pos_iff {alphabet : Alphabet} : 0 < alphabet.size ↔ ¬ alphabet.isEmpty = true := by
  simp [size, isEmpty, Array.size_pos_iff]

theorem mem_iff_mem_toList {alphabet : Alphabet} {ch : Char} :
    ch ∈ alphabet ↔ ch ∈ alphabet.toList := by
  change ch ∈ alphabet.members ↔ ch ∈ alphabet.members.toList
  simp

/-- Alphabets with the same candidates in the same order are equal. -/
theorem toList_injective {first second : Alphabet} (same : first.toList = second.toList) :
    first = second := by
  cases first
  cases second
  simpa [toList] using same

private theorem toList_foldl_append (parts : List Alphabet) (start : Alphabet) :
    (parts.foldl append start).toList = start.toList ++ parts.flatMap toList := by
  induction parts generalizing start with
  | nil => simp
  | cons part parts ih => simp [ih]

@[simp]
theorem toList_union (parts : List Alphabet) : (union parts).toList = parts.flatMap toList := by
  rw [union, toList_foldl_append]
  rfl

/-- The characters of an interval are those whose code points lie in it. -/
theorem toList_interval (first last : Nat) :
    (interval first last).toList =
      (List.range' first (last + 1 - first)).filterMap Text.scalar? := by
  simp [interval, toList, Text.appendInterval, Text.toList_appendRun]

theorem mem_interval_iff {first last : Nat} {ch : Char} :
    ch ∈ interval first last ↔ first ≤ ch.toNat ∧ ch.toNat ≤ last := by
  rw [mem_iff_mem_toList, toList_interval, List.mem_filterMap]
  constructor
  · rintro ⟨code, listed, scalar⟩
    rw [Text.scalar?_eq_some_iff] at scalar
    rw [List.mem_range'_1] at listed
    omega
  · rintro ⟨least, greatest⟩
    refine ⟨ch.toNat, ?_, Text.scalar?_eq_some_iff.mpr rfl⟩
    rw [List.mem_range'_1]
    omega

theorem size_pos_of_mem {alphabet : Alphabet} {ch : Char} (member : ch ∈ alphabet) :
    0 < alphabet.size :=
  Array.size_pos_of_mem member

end Alphabet

end PatternDraw
