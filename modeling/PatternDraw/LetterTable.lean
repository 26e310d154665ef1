import PatternDraw.Alphabet.Named

/-!
# Letters bound to alphabets

A letter pattern names one alphabet for each of its letters.  The table of letters is a value:
binding a letter gives a new table.  Bindings are kept in the order of their letters, so tables
with the same bindings are equal whatever the order in which they were made.
-/

namespace PatternDraw

/-- The bindings of letters to alphabets, in ascending order of the letters. -/
structure LetterTable where
  /-- The bindings in order. -/
  bindings : List (Char × Alphabet)
  deriving DecidableEq, Repr, Inhabited

namespace LetterTable

/-! ## Ordered bindings -/

/-- The alphabet bound to a letter. -/
def find? (letter : Char) : List (Char × Alphabet) → Option Alphabet
  | [] => none
  | (bound, alphabet) :: rest => if bound = letter then some alphabet else find? letter rest

/-- Bind a letter, in place of its binding if it has one. -/
def insert (letter : Char) (alphabet : Alphabet) :
    List (Char × Alphabet) → List (Char × Alphabet)
  | [] => [(letter, alphabet)]
  | (bound, present) :: rest =>
      if letter < bound then (letter, alphabet) :: (bound, present) :: rest
      else if bound = letter then (letter, alphabet) :: rest
      else (bound, present) :: insert letter alphabet rest

/-- Remove the binding of a letter. -/
def erase (letter : Char) : List (Char × Alphabet) → List (Char × Alphabet)
  | [] => []
  | (bound, present) :: rest =>
      if bound = letter then rest else (bound, present) :: erase letter rest

/-! ## Tables -/

/-- The table without bindings. -/
def empty : LetterTable :=
  ⟨[]⟩

/-- The alphabet bound to a letter. -/
def get? (table : LetterTable) (letter : Char) : Option Alphabet :=
  find? letter table.bindings

/-- The table after binding a letter; an empty alphabet removes its binding. -/
def bind (table : LetterTable) (letter : Char) (alphabet : Alphabet) : LetterTable :=
  if alphabet.isEmpty then ⟨erase letter table.bindings⟩
  else ⟨insert letter alphabet table.bindings⟩

/-- Bind a letter, and tell what it was bound to before. -/
def set (table : LetterTable) (letter : Char) (alphabet : Alphabet) :
    Option Alphabet × LetterTable :=
  (table.get? letter, table.bind letter alphabet)

/-- The bound letters in ascending order. -/
def letters (table : LetterTable) : List Char :=
  table.bindings.map Prod.fst

/-- The usual letters: capitals, small letters, digits, punctuation, all of these, salt
characters, and bytes. -/
def standard : LetterTable :=
  [('C', Alphabet.upper), ('c', .lower), ('n', .digit), ('!', .punctuation),
    ('.', .visible), ('s', .salt), ('b', .bytes)].foldl
    (fun table (letter, alphabet) => table.bind letter alphabet) empty

end LetterTable

end PatternDraw
