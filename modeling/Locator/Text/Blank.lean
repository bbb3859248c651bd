namespace Locator.Text

/-! Blank characters and trimming.

A character is blank when its bidirectional class is white space, paragraph separator or
segment separator, or its general category is space separator (Unicode 15.0.0). Besides the
ASCII blanks this takes in U+001C to U+001F, U+0085, the no-break spaces and U+3000.
Trimming removes blanks from both ends of a text and keeps every other character, blanks
inside included.
-/

/-- The code point ranges, inclusive and ascending, of the blank characters. -/
def blankRanges : List (Nat × Nat) := [
  (0x9, 0xD), (0x1C, 0x20), (0x85, 0x85), (0xA0, 0xA0),
  (0x1680, 0x1680), (0x2000, 0x200A), (0x2028, 0x2029), (0x202F, 0x202F),
  (0x205F, 0x205F), (0x3000, 0x3000)]

/-- Whether a character is blank. -/
def isBlank (c : Char) : Bool :=
  blankRanges.any fun range => range.1 ≤ c.toNat && c.toNat ≤ range.2

/-- The characters left after removing those that satisfy `p` from both ends. -/
def trimCharsBy (p : Char → Bool) (cs : List Char) : List Char :=
  ((cs.dropWhile p).reverse.dropWhile p).reverse

/-- The characters left after removing blanks from both ends. -/
def trimChars (cs : List Char) : List Char :=
  trimCharsBy isBlank cs

/-- A text with the blanks at both of its ends removed. -/
def trim (s : String) : String :=
  String.ofList (trimChars s.toList)

end Locator.Text
