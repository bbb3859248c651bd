import Locator.Text.Printable

namespace Locator.Text

/-! Quoted text, as error messages show a value.

* The text stands between single quotes, or between double quotes when it holds a single
  quote and no double quote.
* The backslash and the chosen quote get a backslash in front.
* Tab, line feed and carriage return are written `\t`, `\n` and `\r`.
* Every other character that is not printable is written by its code point in lowercase
  hexadecimal digits of a fixed width: `\xHH` below `0x100`, `\uHHHH` below `0x10000`,
  `\UHHHHHHHH` beyond.
* Every other character stands as itself.
-/

/-- The lowercase hexadecimal digit of `d < 16`. -/
def hexChar (d : Nat) : Char :=
  if d < 10 then Char.ofNat (48 + d) else Char.ofNat (87 + d)

/-- The last `k` hexadecimal digits of `n`, the most significant first. -/
def hexDigits : Nat → Nat → List Char
  | 0, _ => []
  | k + 1, n => hexDigits k (n / 16) ++ [hexChar (n % 16)]

/-- The quote that surrounds a text. -/
def quoteMark (cs : List Char) : Char :=
  if cs.contains '\'' && !cs.contains '"' then '"' else '\''

/-- How one character is written between the quote `mark`. -/
def escapeChar (mark c : Char) : List Char :=
  if c = mark ∨ c = '\\' then ['\\', c]
  else if c = '\t' then ['\\', 't']
  else if c = '\n' then ['\\', 'n']
  else if c = '\r' then ['\\', 'r']
  else if isPrintable c then [c]
  else if c.toNat < 0x100 then '\\' :: 'x' :: hexDigits 2 c.toNat
  else if c.toNat < 0x10000 then '\\' :: 'u' :: hexDigits 4 c.toNat
  else '\\' :: 'U' :: hexDigits 8 c.toNat

/-- The quoted form of a list of characters. -/
def quoteChars (cs : List Char) : List Char :=
  let mark := quoteMark cs
  mark :: cs.flatMap (escapeChar mark) ++ [mark]

/-- The quoted form of a text. -/
def quote (s : String) : String :=
  String.ofList (quoteChars s.toList)

end Locator.Text
