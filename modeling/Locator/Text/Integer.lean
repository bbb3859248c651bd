import Locator.Text.Blank
import Locator.Text.Decimal

namespace Locator.Text

/-! Whole-number literals.

A literal is, after trimming the blanks at its ends, an optional `+` or `-` directly
followed by decimal digits of any script, where a single `_` may stand between two digits.
It has at most `digitLimit` digits, leading zeros counted and underscores not. Its value is
exact, with no bound. The blanks around a literal are the blanks other than the four
information separators U+001C to U+001F, which a literal refuses.
-/

/-- The most digits a literal may have. -/
def digitLimit : Nat := 4300

/-- The digit values of a run of digits with single underscores between two digits. -/
def digitRun : List Char → Option (List Nat)
  | [] => none
  | [c] => (decimalValue? c).map fun d => [d]
  | c :: '_' :: rest => do
    let d ← decimalValue? c
    (d :: ·) <$> digitRun rest
  | c :: rest => do
    let d ← decimalValue? c
    (d :: ·) <$> digitRun rest

/-- The number that digits denote, the most significant first. -/
def digitsValue (ds : List Nat) : Nat :=
  ds.foldl (fun acc d => 10 * acc + d) 0

/-- The sign and the rest of a literal: whether it is negative, and the characters after the sign. -/
def splitSign : List Char → Bool × List Char
  | '-' :: rest => (true, rest)
  | '+' :: rest => (false, rest)
  | cs => (false, cs)

/-- Whether a character may stand around a literal: a blank other than an information
separator. -/
def isLiteralBlank (c : Char) : Bool :=
  isBlank c && !(0x1C ≤ c.toNat && c.toNat ≤ 0x1F)

/-- The value of a whole-number literal, or nothing when the text is not one. -/
def readInteger? (s : String) : Option Int :=
  let (negative, body) := splitSign (trimCharsBy isLiteralBlank s.toList)
  match digitRun body with
  | some ds =>
    if ds.length ≤ digitLimit then
      some (if negative then -(digitsValue ds : Int) else (digitsValue ds : Int))
    else none
  | none => none

end Locator.Text
