/-!
# Intervals of characters as ranges of bytes

In UTF-8 an interval of characters is a union of products of byte ranges: a first byte of one
range, a second byte of another, and so on.  An interval is cut into the fewest products by
cutting where the number of bytes changes, and where a byte behind the first one that differs
would not take all its values.
-/

namespace PatternDraw.Text

/-- The first and the last value of a byte, both included. -/
abbrev ByteRange := Nat × Nat

namespace ByteRanges

/-- The bytes of a code point. -/
def encode (code : Nat) : List Nat :=
  if code < 0x80 then [code]
  else if code < 0x800 then [0xc0 + code / 0x40, 0x80 + code % 0x40]
  else if code < 0x10000 then
    [0xe0 + code / 0x1000, 0x80 + code / 0x40 % 0x40, 0x80 + code % 0x40]
  else
    [0xf0 + code / 0x40000, 0x80 + code / 0x1000 % 0x40, 0x80 + code / 0x40 % 0x40,
      0x80 + code % 0x40]

/-- Where an interval is cut first: the last code point before the cut.  Cuts are made around
the surrogate gap, where the number of bytes changes, and so that the bytes of the lowest,
the two lowest and the three lowest places take all values on all but a common start. -/
def cut? (first last : Nat) : Option Nat :=
  let atWidth (greatest : Nat) : Option Nat :=
    if first ≤ greatest && greatest < last then some greatest else none
  let atPlace (size : Nat) : Option Nat :=
    if first / size = last / size then none
    else if first % size ≠ 0 then some (first / size * size + size - 1)
    else if last % size ≠ size - 1 then some (last / size * size - 1)
    else none
  (atWidth 0x7f).or <| (atWidth 0x7ff).or <| (atWidth 0xffff).or <|
    if last < 0x80 then none
    else (atPlace 0x40).or <| (atPlace 0x1000).or (atPlace 0x40000)

/-- The products of the intervals, the products found before being given, the last one first.
Every step makes a cut or finds a product. -/
def products : Nat → List (List ByteRange) → List (Nat × Nat) → List (List ByteRange)
  | 0, found, _ => found.reverse
  | _ + 1, found, [] => found.reverse
  | steps + 1, found, (first, last) :: rest =>
      if last < first then products steps found rest
      else if first < 0xe000 && 0xd7ff < last then
        products steps found ((first, 0xd7ff) :: (0xe000, last) :: rest)
      else
        match cut? first last with
        | some before => products steps found ((first, before) :: (before + 1, last) :: rest)
        | none => products steps ((encode first).zip (encode last) :: found) rest

/-- The number of cuts that an interval may need, its two ends and the width changing. -/
def stepLimit : Nat :=
  64

/-- The products of byte ranges that an interval of characters consists of. -/
def ofInterval (first last : Nat) : List (List ByteRange) :=
  products stepLimit [] [(first, last)]

end ByteRanges

end PatternDraw.Text
