import PatternDraw.Entropy.Basic

/-!
# The ChaCha stream with twelve rounds

The stream of words behind a seed.  Its state is a square of sixteen words: constants, a key
of eight words, a block counter of two words and a nonce of two, here always zero.  Twelve
rounds mix the square and the result is added to it; the sixteen sums, row by row, are the
next words of the stream.  A draw of 64 bits takes two words of the stream, the lower half
first.
-/

namespace PatternDraw

namespace ChaCha

/-! ## Rows of the square -/

/-- Four words, one for each column of the square. -/
structure Row where
  /-- The word of the first column. -/
  a : UInt32
  /-- The word of the second column. -/
  b : UInt32
  /-- The word of the third column. -/
  c : UInt32
  /-- The word of the fourth column. -/
  d : UInt32
  deriving DecidableEq, Repr, Inhabited

namespace Row

/-- Combine two rows column by column. -/
def zipWith (combine : UInt32 → UInt32 → UInt32) (left right : Row) : Row :=
  ⟨combine left.a right.a, combine left.b right.b, combine left.c right.c,
    combine left.d right.d⟩

/-- The sums of two rows. -/
def add (left right : Row) : Row :=
  zipWith (· + ·) left right

/-- The differences of two rows bit by bit. -/
def xor (left right : Row) : Row :=
  zipWith (· ^^^ ·) left right

/-- Turn the bits of each word to the left. -/
def turnBits (amount : UInt32) (row : Row) : Row :=
  let turn (word : UInt32) := (word <<< amount) ||| (word >>> (32 - amount))
  ⟨turn row.a, turn row.b, turn row.c, turn row.d⟩

/-- Move every word one column to the left, the first word to the end. -/
def shift (row : Row) : Row :=
  ⟨row.b, row.c, row.d, row.a⟩

/-- The words from left to right. -/
def toList (row : Row) : List UInt32 :=
  [row.a, row.b, row.c, row.d]

end Row

/-! ## The square -/

/-- The sixteen words as four rows. -/
structure Square where
  /-- The first row: the constants. -/
  first : Row
  /-- The second row: the first half of the key. -/
  second : Row
  /-- The third row: the second half of the key. -/
  third : Row
  /-- The fourth row: counter and nonce. -/
  fourth : Row
  deriving DecidableEq, Repr, Inhabited

namespace Square

/-- Mix the four words of every column at once. -/
def mixColumns (square : Square) : Square :=
  let first := square.first.add square.second
  let fourth := (square.fourth.xor first).turnBits 16
  let third := square.third.add fourth
  let second := (square.second.xor third).turnBits 12
  let first := first.add second
  let fourth := (fourth.xor first).turnBits 8
  let third := third.add fourth
  let second := (second.xor third).turnBits 7
  ⟨first, second, third, fourth⟩

/-- Turn the diagonals into columns. -/
def straighten (square : Square) : Square :=
  ⟨square.first, square.second.shift, square.third.shift.shift,
    square.fourth.shift.shift.shift⟩

/-- Turn the columns back into diagonals. -/
def slant (square : Square) : Square :=
  ⟨square.first, square.second.shift.shift.shift, square.third.shift.shift,
    square.fourth.shift⟩

/-- A round on the columns and a round on the diagonals. -/
def doubleRound (square : Square) : Square :=
  square.mixColumns.straighten.mixColumns.slant

/-- A number of double rounds. -/
def doubleRounds : Nat → Square → Square
  | 0, square => square
  | count + 1, square => doubleRounds count square.doubleRound

/-- The sums of two squares, row by row from top to bottom. -/
def sums (left right : Square) : List UInt32 :=
  (left.first.add right.first).toList ++ (left.second.add right.second).toList ++
    (left.third.add right.third).toList ++ (left.fourth.add right.fourth).toList

end Square

/-- The constants of the first row. -/
def constants : Row :=
  ⟨0x61707865, 0x3320646e, 0x79622d32, 0x6b206574⟩

end ChaCha

/-! ## The stream -/

/-- A key, the number of the next block, and the words that are left of the last one. -/
structure ChaCha where
  /-- The first four words of the key. -/
  keyLow : ChaCha.Row
  /-- The last four words of the key. -/
  keyHigh : ChaCha.Row
  /-- The number of the next block. -/
  counter : UInt64 := 0
  /-- The words of the last block that have not been drawn. -/
  pending : List UInt32 := []
  deriving DecidableEq, Repr, Inhabited

namespace ChaCha

/-- The square from which the next block is made. -/
def square (state : ChaCha) : Square :=
  ⟨constants, state.keyLow, state.keyHigh,
    ⟨state.counter.toUInt32, (state.counter >>> 32).toUInt32, 0, 0⟩⟩

/-- The sixteen words of the next block. -/
def block (state : ChaCha) : List UInt32 :=
  (state.square.doubleRounds 6).sums state.square

/-- The next word of the stream, and the state after it. -/
def next (state : ChaCha) : UInt32 × ChaCha :=
  match state.pending with
  | word :: rest => (word, { state with pending := rest })
  | [] =>
      match state.block with
      | word :: rest => (word, { state with counter := state.counter + 1, pending := rest })
      | [] => (0, state)

instance : EntropySource ChaCha where
  draw32 := next
  draw64 state :=
    let (low, state) := state.next
    let (high, state) := state.next
    ((high.toUInt64 <<< 32) ||| low.toUInt64, state)

/-! ## Seeds -/

/-- One step of the congruential sequence that spreads a seed over the key. -/
def seedStep (seed : UInt64) : UInt64 :=
  seed * 6364136223846793005 + 11634580027462260723

/-- The key word of a spread seed: its upper bits folded, then turned to the right. -/
def seedWord (seed : UInt64) : UInt32 :=
  let folded := (((seed >>> 18) ^^^ seed) >>> 27).toUInt32
  let amount := (seed >>> 59).toUInt32
  (folded >>> amount) ||| (folded <<< (32 - amount))

/-- Four key words, and the seed after them. -/
def seedRow (seed : UInt64) : Row × UInt64 :=
  let first := seedStep seed
  let second := seedStep first
  let third := seedStep second
  let fourth := seedStep third
  (⟨seedWord first, seedWord second, seedWord third, seedWord fourth⟩, fourth)

/-- The stream of a seed. -/
def ofSeed (seed : UInt64) : ChaCha :=
  let (keyLow, seed) := seedRow seed
  let (keyHigh, _) := seedRow seed
  { keyLow := keyLow, keyHigh := keyHigh }

end ChaCha

end PatternDraw
