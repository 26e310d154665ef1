/-!
# What makes a pattern unusable

A pattern that cannot be compiled has one fault: the first in reading order.  Offsets count
characters from the start of the pattern.
-/

namespace PatternDraw

/-- The reasons why no text can be drawn from a pattern. -/
inductive Fault where
  /-- The pattern ends within the escape that starts at `offset`. -/
  | unterminatedEscape (offset : Nat)
  /-- The two characters after `\x` are not both hexadecimal digits. -/
  | invalidHexEscape (offset : Nat) (digits : String)
  /-- The bracket that opens at `offset` does not close. -/
  | unmatchedBracket (offset : Nat)
  /-- The bracket at `offset` has nothing in it. -/
  | emptyBracket (offset : Nat)
  /-- Braces hold a character that is neither a digit nor a comma. -/
  | invalidRepeatBody (offset : Nat) (ch : Char)
  /-- The digits and commas in braces do not form a count or a range. -/
  | malformedRange (offset : Nat) (body : String)
  /-- A quantifier asks for at least `lower` and at most `upper`, which is less. -/
  | invertedRange (offset lower upper : Nat)
  /-- A quantifier asks for more than the limit allows or memory can hold. -/
  | repeatTooLarge (offset count limit : Nat)
  /-- A quantifier stands where there is nothing to repeat. -/
  | danglingQuantifier (offset : Nat)
  /-- A letter of a letter pattern has no alphabet. -/
  | unknownLetter (letter : Char)
  deriving DecidableEq, Repr, Inhabited

namespace Fault

/-- The fault as a line of text. -/
def message : Fault → String
  | unterminatedEscape offset =>
      "regex not terminated: escape at offset " ++ toString offset ++ " is missing characters"
  | invalidHexEscape offset digits =>
      "invalid hex escape '\\x" ++ digits ++ "' at offset " ++ toString offset
  | unmatchedBracket offset =>
      "unmatched [] starting at offset " ++ toString offset
  | emptyBracket offset =>
      "empty [] at offset " ++ toString offset
  | invalidRepeatBody offset ch =>
      "'" ++ String.singleton ch ++ "' inside \x7b\x7d not supported (offset " ++
        toString offset ++ ")"
  | malformedRange offset body =>
      "malformed range \x7b" ++ body ++ "\x7d at offset " ++ toString offset
  | invertedRange offset lower upper =>
      "bad range \x7b" ++ toString lower ++ "," ++ toString upper ++ "\x7d at offset " ++
        toString offset
  | repeatTooLarge offset count limit =>
      "repeat count " ++ toString count ++ " at offset " ++ toString offset ++
        " exceeds the limit of " ++ toString limit
  | danglingQuantifier offset =>
      "quantifier at offset " ++ toString offset ++ " has nothing to repeat"
  | unknownLetter letter =>
      "unknown pattern character '" ++ String.singleton letter ++ "'"

end Fault

end PatternDraw
