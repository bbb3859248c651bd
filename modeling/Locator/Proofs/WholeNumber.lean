import Mathlib.Data.Nat.Digits.Defs
import Mathlib.Data.List.TakeWhile
import Locator.Proofs.Building
import Locator.Proofs.Text

namespace Locator

/-! # Whole-number literals

The grammar of a whole-number literal, stated apart from its reader: white space (the
characters with the Unicode property White_Space) at both ends, around an optional `+` or
`-` directly followed by a run of decimal digits of any script in which a single `_` may
stand between two digits. A literal has at most `digitLimit` digits, leading zeros counted
and underscores not, and denotes the signed positional value of its digits, with no bound.

`Text.readInteger?` reads exactly these literals, to their value (`readInteger?_eq_some_iff`).
A count option is read as that value when it is not negative, refused as negative with that
value when it is, and refused as no whole number otherwise; so the depth of a git repository,
when given, is its literal's value and at least 1, and an archive's strip count is its
literal's value (`counts_read_as_literals`).
-/

namespace Text

/-- The code point ranges, inclusive and ascending, of the characters with the Unicode
property White_Space (Unicode 15.0.0). -/
def whiteSpaceRanges : List (Nat × Nat) := [
  (0x9, 0xD), (0x20, 0x20), (0x85, 0x85), (0xA0, 0xA0), (0x1680, 0x1680), (0x2000, 0x200A),
  (0x2028, 0x2029), (0x202F, 0x202F), (0x205F, 0x205F), (0x3000, 0x3000)]

/-- A character with the Unicode property White_Space. -/
def IsWhiteSpace (c : Char) : Prop :=
  ∃ range ∈ whiteSpaceRanges, range.1 ≤ c.toNat ∧ c.toNat ≤ range.2

/-- A decimal digit of some script. -/
def IsDigit (c : Char) : Prop :=
  (decimalValue? c).isSome

/-- The value of a decimal digit. -/
def digitValue (c : Char) : Nat :=
  (decimalValue? c).getD 0

/-- A run of decimal digits in which a single `_` may stand between two digits. -/
structure DigitRun (cs : List Char) : Prop where
  chars : ∀ c ∈ cs, IsDigit c ∨ c = '_'
  first : ∃ c ∈ cs.head?, IsDigit c
  last : ∃ c ∈ cs.getLast?, IsDigit c
  single : ¬ ['_', '_'] <:+: cs

/-- The digits of a run, its underscores left out. -/
def runDigits (cs : List Char) : List Char :=
  cs.filter fun c => c != '_'

/-- The positional value of decimal digits, the most significant first. -/
def decimal (digits : List Char) : Nat :=
  Nat.ofDigits 10 (digits.map digitValue).reverse

/-- `s` is a whole-number literal that denotes `n`. -/
def WholeNumber (s : String) (n : Int) : Prop :=
  ∃ lead sign run trail, s.toList = lead ++ sign ++ run ++ trail ∧
    (∀ c ∈ lead ++ trail, IsWhiteSpace c) ∧ sign ∈ [[], ['+'], ['-']] ∧ DigitRun run ∧
    (runDigits run).length ≤ digitLimit ∧
    n = if sign = ['-'] then -(decimal (runDigits run) : Int) else decimal (runDigits run)

variable {c : Char} {cs rest : List Char}

/-! ### Characters -/

/-- The blanks a literal may stand between are the White_Space characters. -/
theorem isLiteralBlank_iff : isLiteralBlank c = true ↔ IsWhiteSpace c := by
  simp only [isLiteralBlank, isBlank, blankRanges, IsWhiteSpace, whiteSpaceRanges]
  simp
  omega

/-- No run of ten decimal digits meets a range of white space. -/
theorem digits_apart_from_whiteSpace :
    ∀ start ∈ digitZeros, ∀ range ∈ whiteSpaceRanges, start + 10 ≤ range.1 ∨ range.2 < start := by
  decide

theorem IsDigit.not_whiteSpace (digit : IsDigit c) : ¬ IsWhiteSpace c := by
  rintro ⟨range, listed, above, below⟩
  obtain ⟨start, found, within⟩ : ∃ start ∈ digitZeros, start ≤ c.toNat ∧ c.toNat < start + 10 := by
    simpa [IsDigit, decimalValue?, List.find?_isSome] using digit
  rcases digits_apart_from_whiteSpace start found range listed with before | after <;> omega

theorem IsDigit.not_blank (digit : IsDigit c) : isLiteralBlank c = false := by
  apply Bool.eq_false_iff.mpr
  intro blank
  exact digit.not_whiteSpace (isLiteralBlank_iff.mp blank)

theorem not_isDigit_underscore : ¬ IsDigit '_' := by unfold IsDigit; decide
theorem not_isDigit_plus : ¬ IsDigit '+' := by unfold IsDigit; decide
theorem not_isDigit_minus : ¬ IsDigit '-' := by unfold IsDigit; decide

theorem IsDigit.ne_underscore (digit : IsDigit c) : c ≠ '_' := by
  rintro rfl
  exact not_isDigit_underscore digit

theorem not_digitRun_nil : ¬ DigitRun [] := fun run => by
  simpa using run.first

/-- Two underscores side by side in front of a text without them stand at its start. -/
theorem single_cons (single : ¬ ['_', '_'] <:+: cs) (apart : c = '_' → ∀ d ∈ cs.head?, d ≠ '_') :
    ¬ ['_', '_'] <:+: c :: cs := by
  intro joined
  rcases List.infix_cons_iff.mp joined with start | inner
  · obtain ⟨same, more, rfl⟩ := List.cons_prefix_cons.mp start
    exact apart same.symm '_' rfl rfl
  · exact single inner

theorem digitRun_singleton : DigitRun [c] ↔ IsDigit c := by
  constructor
  · intro run
    simpa using run.first
  · intro digit
    refine ⟨by simp [digit], by simpa using digit, by simpa using digit, ?_⟩
    intro joined
    simpa using joined.length_le

theorem DigitRun.ne_nil (run : DigitRun cs) : cs ≠ [] := by
  rintro rfl
  exact not_digitRun_nil run

/-- What follows a run from a digit on is a run. -/
theorem DigitRun.of_suffix (run : DigitRun cs) (suffix : rest <:+ cs)
    (first : ∃ d ∈ rest.head?, IsDigit d) : DigitRun rest := by
  obtain ⟨front, rfl⟩ := suffix
  have nonempty : rest ≠ [] := by
    rintro rfl
    simp at first
  refine ⟨fun d member => run.chars d (List.mem_append_right _ member), first, ?_,
    fun joined => run.single (joined.trans (List.suffix_append _ _).isInfix)⟩
  simpa [List.getLast?_append, List.getLast?_eq_some_getLast nonempty] using run.last

/-- A digit in front of a run gives a run. -/
theorem digitRun_cons (first : ∃ d ∈ rest.head?, IsDigit d) :
    DigitRun (c :: rest) ↔ IsDigit c ∧ DigitRun rest := by
  constructor
  · intro run
    exact ⟨by simpa using run.first, run.of_suffix (List.suffix_cons _ _) first⟩
  · rintro ⟨digit, run⟩
    refine ⟨?_, by simpa using digit, ?_, single_cons run.single (absurd · digit.ne_underscore)⟩
    · intro d member
      rcases List.mem_cons.mp member with rfl | inside
      · exact .inl digit
      · exact run.chars d inside
    · simpa [List.getLast?_cons, List.getLast?_eq_some_getLast run.ne_nil] using run.last

/-- A digit, an underscore and a run give a run. -/
theorem digitRun_under : DigitRun (c :: '_' :: rest) ↔ IsDigit c ∧ DigitRun rest := by
  constructor
  · intro run
    -- the run cannot end at the underscore, and no second underscore can follow it
    have first : ∃ d ∈ rest.head?, IsDigit d := by
      cases rest with
      | nil => exact absurd (by simpa using run.last) not_isDigit_underscore
      | cons next more =>
          refine ⟨next, rfl, (run.chars next (by simp)).resolve_right ?_⟩
          rintro rfl
          exact run.single (List.infix_cons (List.cons_prefix_cons.mpr ⟨rfl, by simp⟩).isInfix)
    exact ⟨by simpa using run.first,
      run.of_suffix ((List.suffix_cons _ _).trans (List.suffix_cons _ _)) first⟩
  · rintro ⟨digit, run⟩
    obtain ⟨first, head, firstDigit⟩ := run.first
    have apart : ∀ d ∈ rest.head?, d ≠ '_' := by
      intro d found
      rw [Option.mem_def.mp head, Option.mem_def, Option.some.injEq] at found
      exact found ▸ firstDigit.ne_underscore
    refine ⟨?_, by simpa using digit, ?_,
      single_cons (single_cons run.single fun _ => apart) (absurd · digit.ne_underscore)⟩
    · intro d member
      simp only [List.mem_cons] at member
      rcases member with rfl | rfl | inside
      · exact .inl digit
      · exact .inr rfl
      · exact run.chars d inside
    · simpa [List.getLast?_cons, List.getLast?_eq_some_getLast run.ne_nil] using run.last

@[simp] theorem runDigits_under : runDigits ('_' :: cs) = runDigits cs := by
  simp [runDigits]

theorem runDigits_cons (digit : IsDigit c) : runDigits (c :: cs) = c :: runDigits cs := by
  simp [runDigits, digit.ne_underscore]

theorem runDigits_skip : runDigits (c :: '_' :: cs) = runDigits (c :: cs) := by
  simp [runDigits, List.filter_cons]

/-- A digit in front of digits read to `tail` reads to their values. -/
theorem bind_cons_eq_some {value : Option Nat} {tail : Option (List Nat)} {ds : List Nat} :
    (value.bind fun d => (d :: ·) <$> tail) = some ds ↔
      ∃ d rest, value = some d ∧ tail = some rest ∧ ds = d :: rest := by
  cases value <;> cases tail <;> simp [eq_comm]

/-- Reading a digit and then a run, when the run is read to the values of its digits. -/
theorem digit_then_run {ds : List Nat}
    (ih : ∀ {ds}, digitRun rest = some ds ↔ DigitRun rest ∧ ds = (runDigits rest).map digitValue) :
    ((decimalValue? c).bind fun d => (d :: ·) <$> digitRun rest) = some ds ↔
      IsDigit c ∧ DigitRun rest ∧ ds = (runDigits (c :: rest)).map digitValue := by
  rw [bind_cons_eq_some]
  constructor
  · rintro ⟨d, tail, valued, read, rfl⟩
    obtain ⟨run, rfl⟩ := ih.mp read
    have digit : IsDigit c := by simp [IsDigit, valued]
    exact ⟨digit, run, by simp [runDigits_cons digit, digitValue, valued]⟩
  · rintro ⟨digit, run, rfl⟩
    obtain ⟨d, valued⟩ := Option.isSome_iff_exists.mp digit
    exact ⟨d, _, valued, ih.mpr ⟨run, rfl⟩, by simp [runDigits_cons digit, digitValue, valued]⟩

/-- A run of digits is read to the values of its digits. -/
theorem digitRun_eq_some_iff {ds : List Nat} :
    digitRun cs = some ds ↔ DigitRun cs ∧ ds = (runDigits cs).map digitValue := by
  induction cs using digitRun.induct generalizing ds with
  | case1 => simp [digitRun, not_digitRun_nil]
  | case2 c =>
      rw [digitRun_singleton]
      cases valued : decimalValue? c with
      | none => simp [digitRun, valued, IsDigit]
      | some d =>
          have digit : IsDigit c := by simp [IsDigit, valued]
          have single : (runDigits [c]).map digitValue = [d] := by
            rw [runDigits_cons digit]
            simp [runDigits, digitValue, valued]
          simp only [digitRun, valued, Option.map_some, Option.some.injEq, single, digit, true_and]
          exact eq_comm
  | case3 c rest ih =>
      show (decimalValue? c).bind (fun d => (d :: ·) <$> digitRun rest) = some ds ↔ _
      rw [digitRun_under, runDigits_skip, and_assoc]
      exact digit_then_run ih
  | case4 c rest nonempty unjoined ih =>
      obtain ⟨next, more, rfl⟩ := List.exists_cons_of_ne_nil nonempty
      have apart : next ≠ '_' := fun same => unjoined more (by rw [same])
      have unfolded : digitRun (c :: next :: more) =
          (decimalValue? c).bind fun d => (d :: ·) <$> digitRun (next :: more) := by
        simp [digitRun]
      rw [unfolded]
      by_cases first : ∃ d ∈ (next :: more).head?, IsDigit d
      · rw [digitRun_cons first, and_assoc]
        exact digit_then_run ih
      · -- neither side accepts a run whose second character is no digit
        have notDigit : ¬ IsDigit next := fun digit => first ⟨next, rfl, digit⟩
        constructor
        · intro read
          obtain ⟨d, tail, -, restRead, -⟩ := bind_cons_eq_some.mp read
          exact absurd (ih.mp restRead).1.first first
        · rintro ⟨run, -⟩
          exact absurd ((run.chars next (by simp)).resolve_right apart) notDigit

/-- Reading digits from the most significant on is their positional value. -/
theorem digitsValue_eq_ofDigits (ds : List Nat) : digitsValue ds = Nat.ofDigits 10 ds.reverse := by
  rw [digitsValue, List.foldl_eq_foldr_reverse, Nat.ofDigits_eq_foldr]
  induction ds.reverse with
  | nil => rfl
  | cons d more ih =>
      simp only [List.foldr_cons, ih, Nat.cast_id]
      omega

/-! ### Signs and trimming -/

/-- A sign in front of a run of digits is read off, and whether it is `-` is kept. -/
theorem splitSign_of_run {sign : List Char} (signed : sign ∈ [[], ['+'], ['-']])
    (first : ∃ c ∈ rest.head?, IsDigit c) :
    splitSign (sign ++ rest) = (decide (sign = ['-']), rest) := by
  obtain ⟨c, head, digit⟩ := first
  obtain ⟨more, rfl⟩ : ∃ more, rest = c :: more := by
    cases rest with
    | nil => simp at head
    | cons next more => exact ⟨more, by simp_all⟩
  have notMinus : c ≠ '-' := fun same => not_isDigit_minus (same ▸ digit)
  have notPlus : c ≠ '+' := fun same => not_isDigit_plus (same ▸ digit)
  simp only [List.mem_cons, List.not_mem_nil, or_false] at signed
  rcases signed with rfl | rfl | rfl
  · unfold splitSign
    split <;> simp_all
  · simp [splitSign]
  · simp [splitSign]

/-- Every text is a sign, possibly none, and the characters after it. -/
theorem splitSign_spec (cs : List Char) :
    ∃ sign ∈ [[], ['+'], ['-']], cs = sign ++ (splitSign cs).2 ∧
      (splitSign cs).1 = decide (sign = ['-']) := by
  unfold splitSign
  split
  · exact ⟨['-'], by simp, rfl, by simp⟩
  · exact ⟨['+'], by simp, rfl, by simp⟩
  · exact ⟨[], by simp, rfl, by simp⟩

/-- Trimming drops exactly the blanks around a text that neither starts nor ends with one. -/
theorem trimCharsBy_around {blank : Char → Bool} {lead mid trail : List Char}
    (leading : ∀ c ∈ lead, blank c = true) (trailing : ∀ c ∈ trail, blank c = true)
    (head : ∀ c ∈ mid.head?, blank c = false) (last : ∀ c ∈ mid.getLast?, blank c = false) :
    trimCharsBy blank (lead ++ mid ++ trail) = mid := by
  cases mid with
  | nil =>
      have gone : (lead ++ [] ++ trail).dropWhile blank = [] := by
        rw [List.append_nil, List.dropWhile_append_of_pos leading]
        exact List.dropWhile_eq_nil_iff.mpr fun c member => trailing c member
      rw [trimCharsBy, gone]
      rfl
  | cons first more =>
      have front : (lead ++ (first :: more) ++ trail).dropWhile blank = first :: more ++ trail := by
        rw [List.append_assoc, List.dropWhile_append_of_pos leading]
        exact List.dropWhile_cons_of_neg (by simpa using head first rfl)
      -- from the back the same holds of the reverse, which starts with the last character
      have back : (first :: more ++ trail).reverse.dropWhile blank = (first :: more).reverse := by
        rw [List.reverse_append, List.dropWhile_append_of_pos (by simpa using trailing)]
        cases reversed : (first :: more).reverse with
        | nil => simp at reversed
        | cons final rest =>
            have ending : (first :: more).getLast? = some final := by
              rw [← List.head?_reverse, reversed]; rfl
            exact List.dropWhile_cons_of_neg (by simpa using last final ending)
      rw [trimCharsBy, front, back, List.reverse_reverse]

/-- Every text is its trimmed form between blanks. -/
theorem trimCharsBy_split (blank : Char → Bool) (cs : List Char) :
    ∃ lead trail, cs = lead ++ trimCharsBy blank cs ++ trail ∧
      (∀ c ∈ lead, blank c = true) ∧ ∀ c ∈ trail, blank c = true := by
  let after := (cs.dropWhile blank).reverse
  refine ⟨cs.takeWhile blank, (after.takeWhile blank).reverse, ?_, ?_, ?_⟩
  · -- the leading blanks, then what is left, whose reverse splits at its first non-blank
    have ending : cs.dropWhile blank = (after.dropWhile blank).reverse ++ (after.takeWhile blank).reverse := by
      rw [← List.reverse_append, List.takeWhile_append_dropWhile, List.reverse_reverse]
    calc cs = cs.takeWhile blank ++ cs.dropWhile blank := List.takeWhile_append_dropWhile.symm
      _ = _ := by rw [ending, trimCharsBy, List.append_assoc]
  · intro c member
    exact List.mem_takeWhile_imp member
  · intro c member
    exact List.mem_takeWhile_imp (List.mem_reverse.mp member)

/-! ### Literals -/

/-- The number that the values of decimal digits denote is the digits' positional value. -/
theorem digitsValue_map (digits : List Char) :
    digitsValue (digits.map digitValue) = decimal digits := by
  rw [digitsValue_eq_ofDigits, decimal]

/-- A sign in front of a run of digits is no blank, and neither is the run's first digit. -/
theorem signedRun_head {sign run : List Char} (signed : sign ∈ [[], ['+'], ['-']])
    (formed : DigitRun run) : ∀ c ∈ (sign ++ run).head?, isLiteralBlank c = false := by
  intro c found
  simp only [List.mem_cons, List.not_mem_nil, or_false] at signed
  rcases signed with rfl | rfl | rfl
  · obtain ⟨d, first, digit⟩ := formed.first
    simp only [List.nil_append] at found
    rw [Option.mem_def.mp found, Option.mem_def, Option.some.injEq] at first
    exact first ▸ digit.not_blank
  all_goals
    simp only [List.cons_append, List.nil_append, List.head?_cons, Option.mem_def,
      Option.some.injEq] at found
    subst found
    decide

/-- A signed run of digits ends with a digit, which is no blank. -/
theorem signedRun_last {sign run : List Char} (formed : DigitRun run) :
    ∀ c ∈ (sign ++ run).getLast?, isLiteralBlank c = false := by
  intro c found
  obtain ⟨d, ending, digit⟩ := formed.last
  rw [List.getLast?_append, Option.mem_def.mp ending, Option.some_or, Option.mem_def,
    Option.some.injEq] at found
  exact found ▸ digit.not_blank

/-- What the reader reads is a whole-number literal denoting the number read. -/
theorem WholeNumber.of_read {s : String} {n : Int} (read : readInteger? s = some n) :
    WholeNumber s n := by
  obtain ⟨lead, trail, whole, leading, trailing⟩ := trimCharsBy_split isLiteralBlank s.toList
  obtain ⟨sign, signed, body, negative⟩ := splitSign_spec (trimCharsBy isLiteralBlank s.toList)
  simp only [readInteger?] at read
  generalize (splitSign (trimCharsBy isLiteralBlank s.toList)) = split at read body negative
  obtain ⟨minus, run⟩ := split
  cases counted : digitRun run with
  | none => simp [counted] at read
  | some ds =>
      obtain ⟨formed, rfl⟩ := digitRun_eq_some_iff.mp counted
      simp only [counted] at read
      split at read
      · rename_i bounded
        simp only [Option.some.injEq] at read
        refine ⟨lead, sign, run, trail, ?_, ?_, signed, formed, by simpa using bounded, ?_⟩
        · rw [whole, body]
          simp
        · intro c member
          rcases List.mem_append.mp member with inLead | inTrail
          · exact isLiteralBlank_iff.mp (leading c inLead)
          · exact isLiteralBlank_iff.mp (trailing c inTrail)
        · simp only at negative
          rw [← read, negative, digitsValue_map]
          by_cases minusSign : sign = ['-'] <;> simp [minusSign]
      · simp at read

/-- A whole-number literal is read to the number it denotes. -/
theorem readInteger?_of_wholeNumber {s : String} {n : Int} (whole : WholeNumber s n) :
    readInteger? s = some n := by
  obtain ⟨lead, sign, run, trail, chars, blanks, signed, formed, bounded, rfl⟩ := whole
  -- the signed run neither starts nor ends with a blank, so trimming leaves exactly it
  have trimmed : trimCharsBy isLiteralBlank s.toList = sign ++ run := by
    rw [chars, List.append_assoc lead]
    exact trimCharsBy_around
      (fun c member => isLiteralBlank_iff.mpr (blanks c (List.mem_append_left _ member)))
      (fun c member => isLiteralBlank_iff.mpr (blanks c (List.mem_append_right _ member)))
      (signedRun_head signed formed) (signedRun_last formed)
  have read : digitRun run = some ((runDigits run).map digitValue) :=
    digitRun_eq_some_iff.mpr ⟨formed, rfl⟩
  simp only [readInteger?, trimmed, splitSign_of_run signed formed.first, read,
    List.length_map, bounded, if_true, digitsValue_map]
  by_cases minusSign : sign = ['-'] <;> simp [minusSign]

/-- A whole-number literal is read to its value, and nothing else is read. -/
theorem readInteger?_eq_some_iff {s : String} {n : Int} :
    readInteger? s = some n ↔ WholeNumber s n :=
  ⟨WholeNumber.of_read, readInteger?_of_wholeNumber⟩

/-- A text denotes at most one whole number. -/
theorem WholeNumber.unique {s : String} {n m : Int} (first : WholeNumber s n)
    (second : WholeNumber s m) : n = m := by
  have read : readInteger? s = some n := readInteger?_eq_some_iff.mpr first
  have again : readInteger? s = some m := readInteger?_eq_some_iff.mpr second
  rw [read] at again
  exact Option.some.inj again

end Text

open Text

variable {key : OptionKey} {text : String} {spec : Spec} {format : Format}

/-- A count is read as the value of its literal when that is not negative. -/
theorem readCount_eq_ok_iff {count : Nat} :
    readCount key text = .ok count ↔ WholeNumber text count := by
  rw [← readInteger?_eq_some_iff]
  unfold readCount
  cases readInteger? text with
  | none => simp
  | some number =>
      by_cases negative : number < 0
      · simp only [negative, if_true, Except.throw_eq, reduceCtorEq, false_iff, Option.some.injEq]
        omega
      · simp only [negative, if_false, Except.pure_eq, Except.ok.injEq, Option.some.injEq]
        omega

/-- A count whose literal is negative is refused with the literal's value. -/
theorem readCount_eq_negative_iff {number : Int} :
    readCount key text = .error (.negative key number) ↔ WholeNumber text number ∧ number < 0 := by
  rw [← readInteger?_eq_some_iff]
  unfold readCount
  cases readInteger? text with
  | none => simp
  | some value =>
      by_cases negative : value < 0
      · simp only [negative, if_true, Except.throw_eq, Except.error.injEq, Error.negative.injEq,
          true_and, Option.some.injEq]
        constructor
        · rintro rfl
          exact ⟨rfl, negative⟩
        · rintro ⟨rfl, -⟩
          rfl
      · simp only [negative, if_false, Except.pure_eq, reduceCtorEq, false_iff, Option.some.injEq]
        omega

/-- A count that is no literal is refused as no whole number. -/
theorem readCount_eq_notInteger_iff :
    readCount key text = .error (.notInteger key text) ↔ ∀ number, ¬ WholeNumber text number := by
  simp only [← readInteger?_eq_some_iff]
  unfold readCount
  cases readInteger? text with
  | none => simp
  | some value =>
      simp only [Option.some.injEq]
      split <;> simp

/-- A depth that is read is the value of its literal, and at least 1. -/
theorem readDepth_ok {given : Option String} {hasRef : Bool} {depth : Nat}
    (read : readDepth given hasRef = .ok depth) :
    1 ≤ depth ∧ ∀ text ∈ given, WholeNumber text depth := by
  cases given with
  | none =>
      simp only [readDepth, Except.pure_eq, Except.ok.injEq] at read
      subst read
      exact ⟨by split <;> omega, by simp⟩
  | some text =>
      simp only [readDepth] at read
      obtain ⟨count, counted, rest⟩ := Except.bind_eq_ok read
      by_cases zero : count = 0
      · simp [zero] at rest
      · simp only [zero, if_false, Except.pure_eq, Except.ok.injEq] at rest
        subst rest
        exact ⟨by omega, fun given member => by
          cases Option.mem_def.mp member
          exact readCount_eq_ok_iff.mp counted⟩

/-- The depth of a repository that is read comes from its option. -/
theorem readRepository_depth {repository : Repository}
    (read : readRepository spec format = .ok repository) :
    readDepth (spec.option? .depth) (spec.option? .ref).isSome = .ok repository.depth := by
  unfold readRepository at read
  dsimp only at read
  split at read
  · simp at read
  split at read
  · simp at read
  obtain ⟨depth, depthRead, rest⟩ := Except.bind_eq_ok read
  obtain ⟨recursive, -, rest⟩ := Except.bind_eq_ok rest
  obtain ⟨subdir, -, rest⟩ := Except.bind_eq_ok rest
  cases rest
  exact depthRead

/-- The strip count of an archive that is read comes from its option, 0 when absent. -/
theorem readArchive_strip {packed : Archive} (read : readArchive spec format = .ok packed) :
    readCount .stripComponents ((spec.option? .stripComponents).getD "0") =
      .ok packed.stripComponents := by
  unfold readArchive at read
  cases type : format.archiveType with
  | none => simp [type] at read
  | some archiveType =>
      simp only [type] at read
      obtain ⟨subdir, -, rest⟩ := Except.bind_eq_ok read
      obtain ⟨strip, stripRead, rest⟩ := Except.bind_eq_ok rest
      cases rest
      exact stripRead

theorem build_eq_repository {repository : Repository}
    (built : Resource.build spec format = .ok (.tree (.repository repository))) :
    readRepository spec format = .ok repository := by
  have kind : format.kind = .git := (build_ok built).1.symm
  simp only [Resource.build, kind] at built
  obtain ⟨-, -, rest⟩ := Except.bind_eq_ok built
  obtain ⟨read, readOk, rest⟩ := Except.bind_eq_ok rest
  cases rest
  exact readOk

theorem build_eq_archive {packed : Archive}
    (built : Resource.build spec format = .ok (.tree (.archive packed))) :
    readArchive spec format = .ok packed := by
  have kind : format.kind = .archive := (build_ok built).1.symm
  simp only [Resource.build, kind] at built
  obtain ⟨read, readOk, rest⟩ := Except.bind_eq_ok built
  cases rest
  exact readOk

/-- Count options are read with the grammar and the exact value of whole-number literals:
a count is the value of its literal when that is not negative, is refused as negative with
that value when it is, and is refused as no whole number otherwise, with these messages.
So a built git repository's depth is at least 1 and, when given, its literal's value, and a
built archive's strip count is its literal's value, 0 when none is given. -/
theorem counts_read_as_literals (key : OptionKey) (text : String) :
    (∀ count : Nat, readCount key text = .ok count ↔ WholeNumber text count) ∧
    (∀ number : Int, readCount key text = .error (.negative key number) ↔
      WholeNumber text number ∧ number < 0) ∧
    (readCount key text = .error (.notInteger key text) ↔ ∀ number, ¬ WholeNumber text number) ∧
    (∀ number : Int, (Error.negative key number).message =
      key.name ++ " must be >= 0, got " ++ toString number) ∧
    (Error.notInteger key text).message = key.name ++ " must be an integer, got " ++ quote text ∧
    (∀ spec format repository, Resource.build spec format = .ok (.tree (.repository repository)) →
      1 ≤ repository.depth ∧ ∀ given ∈ spec.option? .depth, WholeNumber given repository.depth) ∧
    (∀ spec format packed, Resource.build spec format = .ok (.tree (.archive packed)) →
      WholeNumber ((spec.option? .stripComponents).getD "0") packed.stripComponents) := by
  refine ⟨fun _ => readCount_eq_ok_iff, fun _ => readCount_eq_negative_iff,
    readCount_eq_notInteger_iff, fun _ => rfl, rfl, ?_, ?_⟩
  · intro spec format repository built
    exact readDepth_ok (readRepository_depth (build_eq_repository built))
  · intro spec format packed built
    exact readCount_eq_ok_iff.mp (readArchive_strip (build_eq_archive built))

/-- A depth written in Arabic-Indic digits with an underscore is read as its value. -/
theorem arabic_depth_read :
    Resource.build ⟨"repo.git", some "git", none, [(.depth, "\u0665_0")]⟩
        (Format.plain "git" .git [.branch, .depth, .recurseSubmodules, .ref, .subdir, .tag]) =
      .ok (.tree (.repository ⟨"git", "repo.git", none, 50, false, ""⟩)) ∧
    1 ≤ 50 ∧ WholeNumber "\u0665_0" 50 :=
  have built : Resource.build ⟨"repo.git", some "git", none, [(.depth, "\u0665_0")]⟩
      (Format.plain "git" .git [.branch, .depth, .recurseSubmodules, .ref, .subdir, .tag]) =
      .ok (.tree (.repository ⟨"git", "repo.git", none, 50, false, ""⟩)) := by decide
  have read := (counts_read_as_literals .depth "\u0665_0").2.2.2.2.2.1 _ _ _ built
  ⟨built, read.1, read.2 _ rfl⟩

end Locator
