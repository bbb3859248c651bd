import Locator.Text.Quoted

namespace Locator

/-! Documents: the values the command line prints as JSON.

A document is null, a boolean, an integer of any size, a string, an array or an object whose
fields keep the order given. `Json.pretty` writes one the way the command line prints it:

* a non-empty array or object opens a line per element, indented two spaces deeper than
  its brackets, with a comma after every element but the last and `": "` after a key;
* an empty array is `[]` and an empty object `{}`;
* a string holds printable ASCII only: the quote and the backslash get a backslash, the
  five control characters with a short escape use it (`\b`, `\f`, `\n`, `\r`, `\t`), and
  every other character outside space to tilde is written `\uXXXX` in lowercase hexadecimal,
  a character beyond `0xFFFF` as its two UTF-16 surrogates.
-/

/-- A JSON document. -/
inductive Json where
  | null
  | bool (value : Bool)
  | int (value : Int)
  | str (value : String)
  | arr (items : List Json)
  | obj (fields : List (String × Json))
deriving Repr

namespace Json

/-- A `\uXXXX` escape of one UTF-16 unit. -/
def unitEscape (unit : Nat) : List Char :=
  '\\' :: 'u' :: Text.hexDigits 4 unit

/-- How one character stands inside a string. -/
def escapeChar (c : Char) : List Char :=
  if c = '"' then ['\\', '"']
  else if c = '\\' then ['\\', '\\']
  else if c = '\n' then ['\\', 'n']
  else if c = '\r' then ['\\', 'r']
  else if c = '\t' then ['\\', 't']
  else if c.toNat = 8 then ['\\', 'b']
  else if c.toNat = 12 then ['\\', 'f']
  else if 0x20 ≤ c.toNat ∧ c.toNat < 0x7F then [c]
  else if c.toNat < 0x10000 then unitEscape c.toNat
  else
    let offset := c.toNat - 0x10000
    unitEscape (0xD800 + offset / 0x400) ++ unitEscape (0xDC00 + offset % 0x400)

/-- A string written between double quotes. -/
def quoted (s : String) : String :=
  String.ofList ('"' :: s.toList.flatMap escapeChar ++ ['"'])

/-- Spaces that indent a line by `depth` steps of two. -/
def pad (depth : Nat) : String :=
  String.ofList (List.replicate (2 * depth) ' ')

/-- Lines joined by a comma and a line break. -/
def joinLines : List String → String
  | [] => ""
  | first :: rest => rest.foldl (fun acc line => acc ++ ",\n" ++ line) first

mutual

/-- The indented text of a document whose first line stands at `depth`. -/
def pretty (depth : Nat) : Json → String
  | .null => "null"
  | .bool value => if value then "true" else "false"
  | .int value => toString value
  | .str value => quoted value
  | .arr [] => "[]"
  | .arr items =>
    "[\n" ++ joinLines (prettyItems (depth + 1) items) ++ "\n" ++ pad depth ++ "]"
  | .obj [] => "\x7b\x7d"
  | .obj fields =>
    "\x7b\n" ++ joinLines (prettyFields (depth + 1) fields) ++ "\n" ++ pad depth ++ "\x7d"

/-- The lines of array elements at `depth`. -/
def prettyItems (depth : Nat) : List Json → List String
  | [] => []
  | item :: rest => (pad depth ++ pretty depth item) :: prettyItems depth rest

/-- The lines of object fields at `depth`. -/
def prettyFields (depth : Nat) : List (String × Json) → List String
  | [] => []
  | (key, value) :: rest =>
    (pad depth ++ quoted key ++ ": " ++ pretty depth value) :: prettyFields depth rest

end

/-- The text of a document as the command line prints it. -/
def render (document : Json) : String :=
  pretty 0 document

end Json

end Locator
