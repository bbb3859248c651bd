import Locator.Proofs.Registry

namespace Locator

/-! # A printed document determines its value

`Json.pretty` writes a document so that its text reads back in one way only. The body of a
string holds no bare double quote, and each escape reads back from its first characters
(`readChar_escapeChar`), so a string ends at its first bare quote. A number is an optional
minus sign and a run of digits, and a value is followed by nothing, a comma or a line break,
never by a digit. The first character of a document tells its sort, and the lines of an array
or an object are told apart by their separators, each line being read back one level deeper
(`pretty_unique`). So two documents with one text are one document, and since the document of
a reference writes every field of it, two references with one printed document are one
reference (`Reference.document_injective`).
-/

namespace Json

/-! ### Reading back an escape -/

/-- The value of a lowercase hexadecimal digit. -/
def hexValue (c : Char) : Nat :=
  if c.toNat < 58 then c.toNat - 48 else c.toNat - 87

/-- The number that hexadecimal digits write, the most significant first. -/
def unitValue (digits : List Char) : Nat :=
  digits.foldl (fun acc c => 16 * acc + hexValue c) 0

/-- The character that the short escape of a letter stands for. -/
def shortEscape? : Char → Option Char
  | '"' => some '"'
  | '\\' => some '\\'
  | 'n' => some '\n'
  | 'r' => some '\r'
  | 't' => some '\t'
  | 'b' => some (Char.ofNat 8)
  | 'f' => some (Char.ofNat 12)
  | _ => none

/-- Reads the first character of a string's body, undoing its escape. -/
def readChar : List Char → Option (Char × List Char)
  | '\\' :: 'u' :: rest =>
    let high := unitValue (rest.take 4)
    if 0xD800 ≤ high ∧ high < 0xDC00 then
      match rest.drop 4 with
      | '\\' :: 'u' :: more =>
        some (Char.ofNat (0x10000 + (high - 0xD800) * 0x400 + (unitValue (more.take 4) - 0xDC00)),
          more.drop 4)
      | _ => none
    else some (Char.ofNat high, rest.drop 4)
  | '\\' :: letter :: rest => (shortEscape? letter).map fun c => (c, rest)
  | c :: rest => some (c, rest)
  | [] => none

theorem hexValue_hexChar : ∀ digit < 16, hexValue (Text.hexChar digit) = digit := by
  decide

@[simp] theorem length_hexDigits (width n : Nat) : (Text.hexDigits width n).length = width := by
  induction width generalizing n with
  | zero => rfl
  | succ width ih => simp [Text.hexDigits, ih]

theorem hexValue_hexChar_mod (n : Nat) : hexValue (Text.hexChar (n % 16)) = n % 16 :=
  hexValue_hexChar _ (Nat.mod_lt _ (by decide))

/-- Four hexadecimal digits read back as the number they write, below `0x10000`. -/
theorem unitValue_hexDigits (n : Nat) : unitValue (Text.hexDigits 4 n) = n % 0x10000 := by
  simp only [unitValue, Text.hexDigits, List.nil_append, List.cons_append, List.foldl_cons,
    List.foldl_nil, hexValue_hexChar_mod]
  omega

/-- A `\\u` escape of one unit that is no high surrogate reads back as the character of that
unit. -/
theorem readChar_unit {unit : Nat} (rest : List Char) (notHigh : ¬(0xD800 ≤ unit ∧ unit < 0xDC00))
    (small : unit < 0x10000) :
    readChar (unitEscape unit ++ rest) = some (Char.ofNat unit, rest) := by
  have value : unitValue (Text.hexDigits 4 unit) = unit := by
    rw [unitValue_hexDigits, Nat.mod_eq_of_lt small]
  simp [readChar, unitEscape, List.take_left', List.drop_left', value, notHigh]

/-- Two `\\u` escapes, a high surrogate and a unit after it, read back as one character. -/
theorem readChar_pair {high low : Nat} (rest : List Char) (isHigh : 0xD800 ≤ high ∧ high < 0xDC00)
    (small : low < 0x10000) :
    readChar (unitEscape high ++ (unitEscape low ++ rest)) =
      some (Char.ofNat (0x10000 + (high - 0xD800) * 0x400 + (low - 0xDC00)), rest) := by
  have highValue : unitValue (Text.hexDigits 4 high) = high := by
    rw [unitValue_hexDigits, Nat.mod_eq_of_lt (by omega)]
  have lowValue : unitValue (Text.hexDigits 4 low) = low := by
    rw [unitValue_hexDigits, Nat.mod_eq_of_lt small]
  simp [readChar, unitEscape, List.take_left', List.drop_left', highValue, lowValue, isHigh]

/-- Every character reads back from its escape, whatever follows it. -/
theorem readChar_escapeChar (c : Char) (rest : List Char) :
    readChar (escapeChar c ++ rest) = some (c, rest) := by
  have valid : c.toNat < 0xD800 ∨ 0xDFFF < c.toNat ∧ c.toNat < 0x110000 := c.valid
  -- the seven short escapes, each of one character
  by_cases quote : c = '"'
  · subst quote; rfl
  by_cases backslash : c = '\\'
  · subst backslash; rfl
  by_cases newline : c = '\n'
  · subst newline; rfl
  by_cases ret : c = '\r'
  · subst ret; rfl
  by_cases tab : c = '\t'
  · subst tab; rfl
  by_cases backspace : c.toNat = 8
  · obtain rfl : c = Char.ofNat 8 := by rw [← backspace, Char.ofNat_toNat]
    rfl
  by_cases formfeed : c.toNat = 12
  · obtain rfl : c = Char.ofNat 12 := by rw [← formfeed, Char.ofNat_toNat]
    rfl
  rw [escapeChar, if_neg quote, if_neg backslash, if_neg newline, if_neg ret, if_neg tab,
    if_neg backspace, if_neg formfeed]
  by_cases printable : 0x20 ≤ c.toNat ∧ c.toNat < 0x7F
  · rw [if_pos printable]
    simp [readChar, backslash]
  rw [if_neg printable]
  by_cases small : c.toNat < 0x10000
  · rw [if_pos small, readChar_unit rest (by omega) small, Char.ofNat_toNat]
  · -- beyond the basic plane: a high surrogate for the upper ten bits of the offset, a low one
    -- for the lower ten
    rw [if_neg small]
    have decoded : 0x10000 + (0xD800 + (c.toNat - 0x10000) / 0x400 - 0xD800) * 0x400 +
        (0xDC00 + (c.toNat - 0x10000) % 0x400 - 0xDC00) = c.toNat := by omega
    dsimp only
    rw [List.append_assoc, readChar_pair rest (by omega) (by omega), decoded, Char.ofNat_toNat]

/-- No escape begins with a double quote. -/
theorem escapeChar_append_ne (c : Char) (tail rest : List Char) : escapeChar c ++ tail ≠ '"' :: rest := by
  intro same
  -- a text that begins with a quote reads back as that quote, and the quote's escape is `\\"`
  have read := congrArg readChar same
  rw [readChar_escapeChar, show readChar ('"' :: rest) = some ('"', rest) by simp [readChar],
    Option.some.injEq, Prod.mk.injEq] at read
  obtain ⟨rfl, -⟩ := read
  simp [escapeChar] at same

/-- The characters of a string's body and what follows its closing quote are read back from the
text. -/
theorem body_unique (first second : List Char) (rest other : List Char)
    (same : first.flatMap escapeChar ++ '"' :: rest = second.flatMap escapeChar ++ '"' :: other) :
    first = second ∧ rest = other := by
  induction first generalizing second with
  | nil =>
      cases second with
      | nil => simpa using same
      | cons c second =>
          rw [List.flatMap_cons, List.append_assoc] at same
          exact absurd same.symm (escapeChar_append_ne c _ rest)
  | cons c first ih =>
      cases second with
      | nil =>
          rw [List.flatMap_cons, List.append_assoc] at same
          exact absurd same (escapeChar_append_ne c _ other)
      | cons d second =>
          simp only [List.flatMap_cons, List.append_assoc] at same
          -- the first escapes read back as their characters, and the rest is the same text
          have read := congrArg readChar same
          rw [readChar_escapeChar, readChar_escapeChar, Option.some.injEq, Prod.mk.injEq] at read
          obtain ⟨rfl, later⟩ := read
          obtain ⟨rfl, rfl⟩ := ih second later
          exact ⟨rfl, rfl⟩

/-- A string written between quotes is read back, with what follows it, from the text. -/
theorem quoted_unique {first second : String} {rest other : List Char}
    (same : (quoted first).toList ++ rest = (quoted second).toList ++ other) :
    first = second ∧ rest = other := by
  simp only [quoted, String.toList_ofList, List.cons_append, List.append_assoc, List.cons.injEq,
    true_and] at same
  obtain ⟨texts, rfl⟩ := body_unique _ _ _ _ same
  exact ⟨String.toList_injective texts, rfl⟩

/-! ### Reading back a number -/

/-- What may follow a value in the text of a document: nothing, or a character that continues
no number. -/
def Stops : List Char → Prop
  | [] => True
  | c :: _ => c.isDigit = false

theorem takeWhile_digits {digits after : List Char} (all : ∀ c ∈ digits, c.isDigit)
    (stops : Stops after) : (digits ++ after).takeWhile Char.isDigit = digits := by
  rw [List.takeWhile_append_of_pos all]
  cases after with
  | nil => simp
  | cons c after =>
      have notDigit : c.isDigit = false := stops
      simp [notDigit]

/-- A run of digits is read back, with what follows it, when no digit follows it. -/
theorem digits_unique {first second rest other : List Char}
    (firstDigits : ∀ c ∈ first, c.isDigit) (secondDigits : ∀ c ∈ second, c.isDigit)
    (restStops : Stops rest) (otherStops : Stops other) (same : first ++ rest = second ++ other) :
    first = second ∧ rest = other := by
  have digitsSame : first = second := by
    rw [← takeWhile_digits firstDigits restStops, same, takeWhile_digits secondDigits otherStops]
  subst digitsSame
  exact ⟨rfl, List.append_cancel_left same⟩

theorem isDigit_of_mem_decimal {n : Nat} {c : Char} (mem : c ∈ Nat.toDigits 10 n) : c.isDigit :=
  Nat.isDigit_of_mem_toDigits (by decide) (by decide) mem

theorem decimal_unique {first second : Nat} {rest other : List Char} (restStops : Stops rest)
    (otherStops : Stops other) (same : Nat.toDigits 10 first ++ rest = Nat.toDigits 10 second ++ other) :
    first = second ∧ rest = other := by
  obtain ⟨digits, rfl⟩ :=
    digits_unique (fun _ => isDigit_of_mem_decimal) (fun _ => isDigit_of_mem_decimal) restStops otherStops same
  have read := congrArg (fun digits => Nat.ofDigitChars 10 digits 0) digits
  simp only [Nat.ofDigitChars_ten_toDigits] at read
  exact ⟨read, rfl⟩

/-- A minus sign begins no natural number. -/
theorem decimal_ne_minus (n : Nat) (after other : List Char) : Nat.toDigits 10 n ++ after ≠ '-' :: other := by
  intro same
  cases digits : Nat.toDigits 10 n with
  | nil => exact (Nat.toDigits_ne_nil : Nat.toDigits 10 n ≠ []) digits
  | cons first rest =>
      have digit : first.isDigit := isDigit_of_mem_decimal (by rw [digits]; exact List.mem_cons_self)
      rw [digits, List.cons_append, List.cons.injEq] at same
      rw [same.1] at digit
      exact absurd digit (by decide)

/-- The decimal text of an integer is read back, with what follows it, when no digit follows it. -/
theorem int_unique {first second : Int} {rest other : List Char} (restStops : Stops rest)
    (otherStops : Stops other) (same : (toString first).toList ++ rest = (toString second).toList ++ other) :
    first = second ∧ rest = other := by
  change (Int.repr first).toList ++ rest = (Int.repr second).toList ++ other at same
  have minus : "-".toList = ['-'] := rfl
  cases first with
  | ofNat m =>
      cases second with
      | ofNat n =>
          simp only [Int.repr, Nat.toList_repr] at same
          obtain ⟨rfl, rfl⟩ := decimal_unique restStops otherStops same
          exact ⟨rfl, rfl⟩
      | negSucc n =>
          simp only [Int.repr, Nat.toList_repr, String.toList_append, minus, List.cons_append,
            List.nil_append] at same
          exact absurd same (decimal_ne_minus m rest _)
  | negSucc m =>
      cases second with
      | ofNat n =>
          simp only [Int.repr, Nat.toList_repr, String.toList_append, minus, List.cons_append,
            List.nil_append] at same
          exact absurd same.symm (decimal_ne_minus n other _)
      | negSucc n =>
          simp only [Int.repr, Nat.toList_repr, String.toList_append, minus, List.cons_append,
            List.nil_append, List.cons.injEq, true_and] at same
          obtain ⟨digits, rfl⟩ := decimal_unique restStops otherStops same
          exact ⟨by rw [Nat.succ.inj digits], rfl⟩

/-! ### Reading back a document -/

section Texts

variable (depth : Nat)

theorem null_text : (pretty depth .null).toList = ['n', 'u', 'l', 'l'] := by
  simp only [pretty]
  rfl

theorem bool_text (value : Bool) :
    (pretty depth (.bool value)).toList = if value then ['t', 'r', 'u', 'e'] else ['f', 'a', 'l', 's', 'e'] := by
  cases value <;> simp only [pretty] <;> rfl

theorem int_text (value : Int) : (pretty depth (.int value)).toList = (toString value).toList := by
  simp only [pretty]

theorem str_text (value : String) :
    (pretty depth (.str value)).toList = '"' :: (value.toList.flatMap escapeChar ++ ['"']) := by
  simp [pretty, quoted, String.toList_ofList]

theorem arr_nil_text : (pretty depth (.arr [])).toList = ['[', ']'] := by
  simp only [pretty]
  rfl

theorem arr_text {items : List Json} (present : items ≠ []) :
    (pretty depth (.arr items)).toList = '[' :: '\n' ::
      ((joinLines (prettyItems (depth + 1) items)).toList ++ '\n' :: ((pad depth).toList ++ [']'])) := by
  cases items with
  | nil => exact absurd rfl present
  | cons item items =>
      simp only [pretty, String.toList_append, List.append_assoc]
      rfl

theorem obj_nil_text : (pretty depth (.obj [])).toList = ['\x7b', '\x7d'] := by
  simp only [pretty]
  rfl

theorem obj_text {fields : List (String × Json)} (present : fields ≠ []) :
    (pretty depth (.obj fields)).toList = '\x7b' :: '\n' ::
      ((joinLines (prettyFields (depth + 1) fields)).toList ++ '\n' :: ((pad depth).toList ++ ['\x7d'])) := by
  cases fields with
  | nil => exact absurd rfl present
  | cons field fields =>
      simp only [pretty, String.toList_append, List.append_assoc]
      rfl

end Texts

/-- The sort of a document: null, a boolean, a number, a string, an array or an object. -/
def sort : Json → Nat
  | .null => 0
  | .bool _ => 1
  | .int _ => 2
  | .str _ => 3
  | .arr _ => 4
  | .obj _ => 5

/-- The sort of document whose text begins with a character. -/
def sortOfChar : Char → Nat
  | 'n' => 0
  | 't' | 'f' => 1
  | '"' => 3
  | '[' => 4
  | '\x7b' => 5
  | _ => 2

theorem sortOfChar_digit {c : Char} (digit : c.isDigit = true) : sortOfChar c = 2 := by
  unfold sortOfChar
  split <;> first | rfl | exact absurd digit (by decide)

/-- The first character of a document's text tells its sort. -/
theorem pretty_head (depth : Nat) (value : Json) :
    ∃ c rest, (pretty depth value).toList = c :: rest ∧ sortOfChar c = value.sort := by
  cases value with
  | null => exact ⟨'n', _, null_text depth, rfl⟩
  | bool value =>
      cases value
      · exact ⟨'f', _, bool_text depth false, rfl⟩
      · exact ⟨'t', _, bool_text depth true, rfl⟩
  | int value =>
      rw [int_text]
      change ∃ c rest, (Int.repr value).toList = c :: rest ∧ sortOfChar c = 2
      cases value with
      | ofNat n =>
          cases digits : Nat.toDigits 10 n with
          | nil => exact absurd digits Nat.toDigits_ne_nil
          | cons digit rest =>
              refine ⟨digit, rest, by simp [Int.repr, Nat.toList_repr, digits], sortOfChar_digit ?_⟩
              exact isDigit_of_mem_decimal (by rw [digits]; exact List.mem_cons_self)
      | negSucc n => exact ⟨'-', _, by simp [Int.repr, String.toList_append]; rfl, rfl⟩
  | str value => exact ⟨'"', _, str_text depth value, rfl⟩
  | arr items =>
      cases items with
      | nil => exact ⟨'[', _, arr_nil_text depth, rfl⟩
      | cons item items => exact ⟨'[', _, arr_text depth (List.cons_ne_nil item items), rfl⟩
  | obj fields =>
      cases fields with
      | nil => exact ⟨'\x7b', _, obj_nil_text depth, rfl⟩
      | cons field fields => exact ⟨'\x7b', _, obj_text depth (List.cons_ne_nil field fields), rfl⟩

theorem sort_eq {depth : Nat} {first second : Json} {rest other : List Char}
    (same : (pretty depth first).toList ++ rest = (pretty depth second).toList ++ other) :
    first.sort = second.sort := by
  obtain ⟨c, cs, firstText, firstSort⟩ := pretty_head depth first
  obtain ⟨d, ds, secondText, secondSort⟩ := pretty_head depth second
  rw [firstText, secondText, List.cons_append, List.cons_append, List.cons.injEq] at same
  rw [← firstSort, ← secondSort, same.1]

/-! ### Lines -/

theorem foldl_lines (head tail : String) (lines : List String) :
    lines.foldl (fun acc line => acc ++ ",\n" ++ line) (head ++ tail) =
      head ++ lines.foldl (fun acc line => acc ++ ",\n" ++ line) tail := by
  induction lines generalizing tail with
  | nil => rfl
  | cons line lines ih =>
      rw [List.foldl_cons, List.foldl_cons, ← ih]
      congr 1
      simp only [String.append_assoc]

theorem joinLines_pair (first second : String) (rest : List String) :
    joinLines (first :: second :: rest) = first ++ ",\n" ++ joinLines (second :: rest) := by
  simp only [joinLines, List.foldl_cons]
  rw [foldl_lines]

theorem prettyItems_eq (depth : Nat) (items : List Json) :
    prettyItems depth items = items.map fun item => pad depth ++ pretty depth item := by
  induction items with
  | nil => simp [prettyItems]
  | cons item items ih => simp [prettyItems, ih]

theorem prettyFields_eq (depth : Nat) (fields : List (String × Json)) :
    prettyFields depth fields =
      fields.map fun field => pad depth ++ quoted field.1 ++ ": " ++ pretty depth field.2 := by
  induction fields with
  | nil => simp [prettyFields]
  | cons field fields ih => simp [prettyFields, ih]

/-- Lines joined by a comma and a line break, with a line break after the last, are read back
one by one when each line is read back with what follows it. -/
theorem joinLines_unique {α : Type} (line : α → String) (first second : List α)
    (firstPresent : first ≠ []) (secondPresent : second ≠ [])
    (readable : ∀ a ∈ first, ∀ b (rest other : List Char),
      (line a).toList ++ rest = (line b).toList ++ other → Stops rest → Stops other →
        a = b ∧ rest = other)
    {rest other : List Char}
    (same : (joinLines (first.map line)).toList ++ '\n' :: rest =
      (joinLines (second.map line)).toList ++ '\n' :: other) :
    first = second ∧ rest = other := by
  have comma : ",\n".toList = [',', '\n'] := rfl
  induction first generalizing second with
  | nil => exact absurd rfl firstPresent
  | cons a more ih =>
      cases second with
      | nil => exact absurd rfl secondPresent
      | cons b fewer =>
          have readA := readable a List.mem_cons_self b
          -- each side is its first line, then a comma or the final line break
          cases more with
          | nil =>
              cases fewer with
              | nil =>
                  obtain ⟨rfl, tails⟩ := readA _ _ same rfl rfl
                  exact ⟨rfl, (List.cons.inj tails).2⟩
              | cons b' fewer =>
                  simp only [List.map_cons, List.map_nil, joinLines_pair, String.toList_append, comma,
                    List.append_assoc, List.cons_append, List.nil_append] at same
                  simpa using (readA _ _ same rfl rfl).2
          | cons a' more =>
              cases fewer with
              | nil =>
                  simp only [List.map_cons, List.map_nil, joinLines_pair, String.toList_append, comma,
                    List.append_assoc, List.cons_append, List.nil_append] at same
                  simpa using (readA _ _ same rfl rfl).2
              | cons b' fewer =>
                  simp only [List.map_cons, joinLines_pair, String.toList_append, comma,
                    List.append_assoc, List.cons_append, List.nil_append] at same
                  obtain ⟨rfl, tails⟩ := readA _ _ same rfl rfl
                  simp only [List.cons.injEq, true_and] at tails
                  obtain ⟨lines, rfl⟩ := ih (b' :: fewer) (List.cons_ne_nil _ _) (List.cons_ne_nil _ _)
                    (fun c mem => readable c (List.mem_cons_of_mem a mem)) (by simpa using tails)
                  exact ⟨by rw [lines], rfl⟩

/-- The text of a non-empty array or object, its lines between a bracket and a line break and
a line break, the indent and the closing bracket, is read back line by line with what follows
it. -/
theorem bracketed_unique {α : Type} (line : α → String) (depth : Nat) (opening closing : Char)
    {first second : List α} (firstPresent : first ≠ []) (secondPresent : second ≠ [])
    (readable : ∀ a ∈ first, ∀ b (rest other : List Char),
      (line a).toList ++ rest = (line b).toList ++ other → Stops rest → Stops other →
        a = b ∧ rest = other)
    {rest other : List Char}
    (same : opening :: '\n' :: ((joinLines (first.map line)).toList ++
        '\n' :: ((pad depth).toList ++ [closing])) ++ rest =
      opening :: '\n' :: ((joinLines (second.map line)).toList ++
        '\n' :: ((pad depth).toList ++ [closing])) ++ other) :
    first = second ∧ rest = other := by
  simp only [List.cons_append, List.cons.injEq, true_and, List.append_assoc] at same
  obtain ⟨lists, tails⟩ := joinLines_unique line first second firstPresent secondPresent readable same
  simp only [List.nil_append, List.append_cancel_left_eq, List.cons.injEq, true_and] at tails
  exact ⟨lists, tails⟩

/-- The text of a document, followed by nothing or by a character that continues no number, is
read back with what follows it. -/
theorem pretty_unique (depth : Nat) (first second : Json) {rest other : List Char}
    (same : (pretty depth first).toList ++ rest = (pretty depth second).toList ++ other)
    (restStops : Stops rest) (otherStops : Stops other) : first = second ∧ rest = other := by
  have sorts := sort_eq same
  -- the equation `firstIs` stays in the context for the termination argument
  revert same sorts
  cases firstIs : first <;> cases second <;> intro same sorts <;> simp [sort] at sorts
  case null.null => exact ⟨rfl, List.append_cancel_left same⟩
  case bool.bool value value' =>
      rw [bool_text, bool_text] at same
      cases value <;> cases value' <;> simp at same ⊢ <;> exact same
  case int.int value value' =>
      rw [int_text, int_text] at same
      obtain ⟨rfl, rfl⟩ := int_unique restStops otherStops same
      exact ⟨rfl, rfl⟩
  case str.str value value' =>
      obtain ⟨rfl, rfl⟩ := quoted_unique same
      exact ⟨rfl, rfl⟩
  case arr.arr items items' =>
      cases items with
      | nil =>
          cases items' with
          | nil => exact ⟨rfl, List.append_cancel_left same⟩
          | cons item' items' =>
              rw [arr_nil_text, arr_text depth (List.cons_ne_nil _ _)] at same
              simp at same
      | cons item items =>
          cases items' with
          | nil =>
              rw [arr_nil_text, arr_text depth (List.cons_ne_nil _ _)] at same
              simp at same
          | cons item' items' =>
              rw [arr_text depth (List.cons_ne_nil _ _), arr_text depth (List.cons_ne_nil _ _)] at same
              simp only [prettyItems_eq] at same
              -- each item is read back by the same argument, one level deeper
              obtain ⟨lists, rfl⟩ := bracketed_unique
                (fun (item : Json) => pad (depth + 1) ++ pretty (depth + 1) item) depth '[' ']'
                (List.cons_ne_nil _ _) (List.cons_ne_nil _ _)
                (fun a mem b rest other lines restStops otherStops => by
                  simp only [String.toList_append, List.append_assoc] at lines
                  exact pretty_unique (depth + 1) a b (List.append_cancel_left lines) restStops otherStops)
                same
              exact ⟨by rw [lists], rfl⟩
  case obj.obj fields fields' =>
      cases fields with
      | nil =>
          cases fields' with
          | nil => exact ⟨rfl, List.append_cancel_left same⟩
          | cons field' fields' =>
              rw [obj_nil_text, obj_text depth (List.cons_ne_nil _ _)] at same
              simp at same
      | cons field fields =>
          cases fields' with
          | nil =>
              rw [obj_nil_text, obj_text depth (List.cons_ne_nil _ _)] at same
              simp at same
          | cons field' fields' =>
              rw [obj_text depth (List.cons_ne_nil _ _), obj_text depth (List.cons_ne_nil _ _)] at same
              simp only [prettyFields_eq] at same
              -- a field is its quoted key, then its value one level deeper
              obtain ⟨lists, rfl⟩ := bracketed_unique
                (fun (field : String × Json) => pad (depth + 1) ++ quoted field.1 ++ ": " ++
                  pretty (depth + 1) field.2) depth '\x7b' '\x7d'
                (List.cons_ne_nil _ _) (List.cons_ne_nil _ _)
                (fun a mem b rest other lines restStops otherStops => by
                  simp only [String.toList_append, List.append_assoc] at lines
                  have afterPad := List.append_cancel_left lines
                  obtain ⟨keys, afterKey⟩ := quoted_unique afterPad
                  have afterColon := List.append_cancel_left afterKey
                  obtain ⟨values, rfl⟩ := pretty_unique (depth + 1) a.2 b.2 afterColon restStops otherStops
                  exact ⟨Prod.ext keys values, rfl⟩)
                same
              exact ⟨by rw [lists], rfl⟩
termination_by sizeOf first
decreasing_by
  · -- an item is smaller than the array that holds it
    have smaller := List.sizeOf_lt_of_mem mem
    rw [firstIs]
    simp only [Json.arr.sizeOf_spec]
    omega
  · -- a field's value is smaller than the field, and the field than the object
    have smaller := List.sizeOf_lt_of_mem mem
    have inField : sizeOf a.2 < sizeOf a := by
      obtain ⟨key, value⟩ := a
      simp only [Prod.mk.sizeOf_spec]
      omega
    rw [firstIs]
    simp only [Json.obj.sizeOf_spec]
    omega

/-- Two documents with the same text, ended by a line break, are the same document. -/
theorem render_line_injective {first second : Json} (same : first.render ++ "\n" = second.render ++ "\n") :
    first = second := by
  have texts : (pretty 0 first).toList ++ ['\n'] = (pretty 0 second).toList ++ ['\n'] := by
    simpa [render, String.toList_append] using congrArg String.toList same
  exact (pretty_unique 0 first second texts rfl rfl).1

end Json

/-! ### The documents of references -/

theorem Compression.name_injective : Function.Injective Compression.name := by
  intro first second same
  have named := congrArg Compression.ofName? same
  rwa [Compression.ofName?_name, Compression.ofName?_name, Option.some.injEq] at named

theorem Encoding.name_injective : Function.Injective Encoding.name := by
  intro first second same
  cases first <;> cases second <;> simp_all [Encoding.name]

theorem ArchiveType.name_injective : Function.Injective ArchiveType.name := by
  intro first second same
  cases first <;> cases second <;> simp_all [ArchiveType.name]

theorem RevisionKind.name_injective : Function.Injective RevisionKind.name := by
  intro first second same
  cases first <;> cases second <;> simp_all [RevisionKind.name]

theorem Json.ofOption_injective : Function.Injective Json.ofOption := by
  intro first second same
  cases first <;> cases second <;> simp_all [Json.ofOption]

theorem Revision.toJson_injective : Function.Injective Revision.toJson := by
  rintro ⟨kind, name, branch⟩ ⟨kind', name', branch'⟩ same
  simp only [Revision.toJson, Json.obj.injEq, List.cons.injEq, Prod.mk.injEq, Json.str.injEq,
    true_and, and_true] at same
  obtain ⟨kinds, rfl, branches⟩ := same
  rw [RevisionKind.name_injective kinds, Json.ofOption_injective branches]

theorem Coordinate.toJson_injective : Function.Injective Coordinate.toJson := by
  rintro ⟨remote, owner, repository, revision⟩ ⟨remote', owner', repository', revision'⟩ same
  simp only [Coordinate.toJson, Json.obj.injEq, List.cons.injEq, Prod.mk.injEq, Json.str.injEq,
    true_and, and_true] at same
  obtain ⟨rfl, rfl, rfl, revisions⟩ := same
  rw [Json.ofOption_injective revisions]

theorem SingleFile.toJson_injective : Function.Injective SingleFile.toJson := by
  rintro ⟨format, path, compression, options⟩ ⟨format', path', compression', options'⟩ same
  simp only [SingleFile.toJson, Json.obj.injEq, List.cons.injEq, Prod.mk.injEq, Json.str.injEq,
    true_and, and_true] at same
  obtain ⟨rfl, rfl, compressions, options⟩ := same
  have entries : ∀ entry entry' : String × String,
      (entry.1, Json.str entry.2) = (entry'.1, Json.str entry'.2) → entry = entry' := by
    intro entry entry' equal
    simp only [Prod.mk.injEq, Json.str.injEq] at equal
    exact Prod.ext equal.1 equal.2
  rw [Compression.name_injective compressions, (List.map_inj_right entries).1 options]

theorem Tree.toJson_injective : Function.Injective Tree.toJson := by
  intro first second same
  -- trees of different kinds differ in their first field
  cases first <;> cases second <;> simp [Tree.toJson, Kind.name] at same
  case archive.archive first second =>
    obtain ⟨format, path, type, compression, subdir, strip⟩ := first
    obtain ⟨format', path', type', compression', subdir', strip'⟩ := second
    simp only at same
    obtain ⟨rfl, rfl, types, compressions, rfl, strips⟩ := same
    -- the strip count is written as an integer
    obtain rfl : strip = strip' := by exact_mod_cast strips
    rw [ArchiveType.name_injective types, Compression.name_injective compressions]
  case directory.directory first second =>
    cases first
    cases second
    simp_all
  case repository.repository first second =>
    obtain ⟨format, path, revision, depth, recurse, subdir⟩ := first
    obtain ⟨format', path', revision', depth', recurse', subdir'⟩ := second
    -- a revision is written as its document, and none as null
    have written : ∀ revision : Revision, revision.toJson ≠ .null := fun _ => by simp [Revision.toJson]
    simp only at same
    obtain ⟨rfl, rfl, revisions, depths, rfl, rfl⟩ := same
    obtain rfl : depth = depth' := by exact_mod_cast depths
    cases revision with
    | none =>
        cases revision' with
        | none => rfl
        | some other => exact absurd revisions.symm (written other)
    | some given =>
        cases revision' with
        | none => exact absurd revisions (written given)
        | some other => rw [Revision.toJson_injective revisions]

theorem ModuleSource.toJson_injective : Function.Injective ModuleSource.toJson := by
  rintro ⟨format, coordinate⟩ ⟨format', coordinate'⟩ same
  simp only [ModuleSource.toJson, Json.obj.injEq, List.cons.injEq, Prod.mk.injEq, Json.str.injEq,
    true_and, and_true] at same
  obtain ⟨rfl, coordinates⟩ := same
  rw [Coordinate.toJson_injective coordinates]

theorem ProtoFile.toJson_injective : Function.Injective ProtoFile.toJson := by
  rintro ⟨format, path, package⟩ ⟨format', path', package'⟩ same
  simp only [ProtoFile.toJson, Json.obj.injEq, List.cons.injEq, Prod.mk.injEq, Json.str.injEq,
    Json.bool.injEq, true_and, and_true] at same
  obtain ⟨rfl, rfl, rfl⟩ := same
  rfl

theorem Kind.name_injective : Function.Injective Kind.name := by
  intro first second same
  cases first <;> cases second <;> simp_all [Kind.name]

theorem Tree.kind_isTree (tree : Tree) : tree.kind.isTree = true := by
  cases tree <;> rfl

/-- The document of a resource begins with the name of its kind. -/
theorem Resource.toJson_kind (resource : Resource) :
    ∃ fields, resource.toJson = .obj (("kind", .str resource.kind.name) :: fields) := by
  cases resource with
  | single file => exact ⟨_, rfl⟩
  | tree tree => cases tree <;> exact ⟨_, rfl⟩
  | module named => exact ⟨_, rfl⟩
  | protoFile file => exact ⟨_, rfl⟩

theorem Resource.toJson_injective : Function.Injective Resource.toJson := by
  intro first second same
  have kinds : first.kind = second.kind := by
    obtain ⟨fields, firstIs⟩ := first.toJson_kind
    obtain ⟨fields', secondIs⟩ := second.toJson_kind
    rw [firstIs, secondIs] at same
    simp only [Json.obj.injEq, List.cons.injEq, Prod.mk.injEq, Json.str.injEq, true_and] at same
    exact Kind.name_injective same.1
  cases first <;> cases second
  case single.single => rw [SingleFile.toJson_injective same]
  case tree.tree => rw [Tree.toJson_injective same]
  case module.module => rw [ModuleSource.toJson_injective same]
  case protoFile.protoFile => rw [ProtoFile.toJson_injective same]
  -- resources of different families have different kinds, a tree's kind being a kind of tree
  all_goals simp only [Resource.kind, reduceCtorEq] at kinds
  all_goals
    have trees := congrArg Kind.isTree kinds
    rw [Tree.kind_isTree] at trees
    simp [Kind.isTree] at trees

theorem Reference.toJson_injective : Function.Injective Reference.toJson := by
  intro first second same
  -- a message's document has three fields more than the others, which differ in their family
  cases first <;> cases second <;>
    simp [Reference.toJson, Reference.typeName, Reference.resource, Resource.toJson_injective.eq_iff,
      Encoding.name_injective.eq_iff] at same
  case message.message first second =>
    cases first
    cases second
    simp_all
  all_goals rw [same]

/-- Two references with the same printed document are the same reference. -/
theorem Reference.document_injective {first second : Reference}
    (same : first.toJson.render ++ "\n" = second.toJson.render ++ "\n") : first = second :=
  Reference.toJson_injective (Json.render_line_injective same)

end Locator
