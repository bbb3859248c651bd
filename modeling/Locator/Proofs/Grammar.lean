import Mathlib.Data.List.Nodup
import Locator.Proofs.Split

namespace Locator

/-! # The grammar of written references

A written reference, trimmed, passes a fixed list of checks in this order: the text is not
empty; it holds at most one `#`; the path before the `#` is not empty; if there is a `#`,
the text after it is not empty. Then the items of that text, cut at each comma, are checked
one after the other from the left, each against the keys of the items before it: the item
is not empty, its key (the text before its first `=`, or the whole item) is not empty and
is one of the twelve option keys, no item before it has that key, a key without `=` is one
of the four switches, a value after `=` is not empty, and a switch's value is `true` or
`false`. Last, the value of the `compression` option names a compression. `Grammar.checks`
lists these checks with the refusal each gives, and `Grammar.WellFormed` states the
grammar they define, item by item.

Reading a text succeeds exactly when its trimmed form is well formed, and gives the path,
the values of the `format` and `compression` options, and the other options in the order
written, a bare switch meaning `true`; a text that is not well formed is refused with the
refusal of the first check it fails (`split_follows_grammar`).
-/

namespace Grammar

/-- A check that a written reference must pass, and the refusal it gives when it fails. -/
structure Check where
  fails : Bool
  refusal : Error

/-- The refusal of the first check that fails, if any does. -/
def firstRefusal (checks : List Check) : Option Error :=
  (checks.find? Check.fails).map Check.refusal

/-- The outcome of checks before a result: the first refusal, or the result. -/
def verdict {α : Type} (checks : List Check) (result : α) : Except Error α :=
  match firstRefusal checks with
  | some error => .error error
  | none => .ok result

/-! ### The parts of a written reference -/

/-- The path: the text before its first `#`. -/
def pathPart (text : String) : String :=
  (Text.pieces '#' text).headD ""

/-- The options text after the `#`, if the text has one. -/
def optionsPart? (text : String) : Option String :=
  (Text.pieces '#' text)[1]?

/-- The option items: the options text cut at each comma; none without a `#`. -/
def items (text : String) : List String :=
  match optionsPart? text with
  | some options => Text.pieces ',' options
  | none => []

/-- The key of an option item: the text before its first `=`, or the whole item. -/
def itemKey (item : String) : String :=
  match Text.cutFirst '=' item with
  | some (key, _) => key
  | none => item

/-- The value written after the first `=` of an option item, if it has one. -/
def itemGiven (item : String) : Option String :=
  (Text.cutFirst '=' item).map Prod.snd

/-- The value an item gives its key: the one written, or `true` for a bare key. -/
def itemValue (item : String) : String :=
  (itemGiven item).getD "true"

/-- The option an item names, with the value it gives, if its key is known. -/
def itemOption? (item : String) : Option (OptionKey × String) :=
  (OptionKey.ofName? (itemKey item)).map fun key => (key, itemValue item)

/-- The options a text names, in the order written. -/
def entries (text : String) : List (OptionKey × String) :=
  (items text).filterMap itemOption?

/-- The value of an option among those a text names. -/
def lookup (text : String) (key : OptionKey) : Option String :=
  ((entries text).find? fun entry => entry.1 == key).map Prod.snd

/-! ### The checks, in order -/

/-- The checks of one option item, given the options text and the keys of the items before
it. -/
def itemChecks (options : String) (earlier : List OptionKey) (item : String) : List Check :=
  ⟨item.isEmpty, .emptyOption options⟩ :: ⟨(itemKey item).isEmpty, .emptyKey item⟩ ::
    match OptionKey.ofName? (itemKey item) with
    | none => [⟨true, .unknownKey (itemKey item)⟩]
    | some key =>
      [⟨earlier.contains key, .duplicateKey key⟩,
        ⟨(itemGiven item).isNone && !key.isSwitch, .missingValue key⟩,
        ⟨decide (itemGiven item = some ""), .emptyValue key⟩,
        ⟨key.isSwitch && !(itemValue item == "true" || itemValue item == "false"),
          .notSwitch key (itemValue item)⟩]

/-- The checks of the option items from the left, each against the keys before it. -/
def itemsChecks (options : String) : List OptionKey → List String → List Check
  | _, [] => []
  | earlier, item :: rest =>
    itemChecks options earlier item ++
      itemsChecks options (earlier ++ (OptionKey.ofName? (itemKey item)).toList) rest

/-- The check of the compression a text names, if it names one. -/
def compressionChecks (text : String) : List Check :=
  match lookup text .compression with
  | some name => [⟨(Compression.ofName? name).isNone, .unknownCompression name⟩]
  | none => []

/-- The checks of the text as a whole, before its items are read. -/
def textChecks (text : String) : List Check :=
  [⟨text.isEmpty, .emptyReference⟩, ⟨decide (1 < text.toList.count '#'), .manyHashes text⟩,
    ⟨(pathPart text).isEmpty, .emptyPath text⟩,
    ⟨decide (optionsPart? text = some ""), .emptyOptions text⟩]

/-- Every check of a written reference, in the order reading makes them. -/
def checks (text : String) : List Check :=
  textChecks text ++ itemsChecks ((optionsPart? text).getD "") [] (items text) ++
    compressionChecks text

/-- The reference a well-formed text reads as: its path, the values of its `format` and
`compression` options, and its other options in the order written. -/
def reading (text : String) : Spec where
  path := pathPart text
  format := lookup text .format
  compression := (lookup text .compression).bind Compression.ofName?
  options := (entries text).filter fun entry => entry.1 != .format && entry.1 != .compression

/-- The grammar of written references, for a trimmed text. -/
structure WellFormed (text : String) : Prop where
  nonempty : text ≠ ""
  oneHash : text.toList.count '#' ≤ 1
  path : pathPart text ≠ ""
  options : optionsPart? text ≠ some ""
  known : ∀ item ∈ items text, ∃ key, OptionKey.ofName? (itemKey item) = some key
  distinct : ((items text).map itemKey).Nodup
  bare : ∀ item ∈ items text, itemGiven item = none →
    ∃ key, OptionKey.ofName? (itemKey item) = some key ∧ key.isSwitch = true
  values : ∀ item ∈ items text, itemGiven item ≠ some ""
  switches : ∀ item ∈ items text, ∀ key, OptionKey.ofName? (itemKey item) = some key →
    key.isSwitch = true → itemValue item = "true" ∨ itemValue item = "false"
  compression : ∀ item ∈ items text, itemKey item = "compression" →
    itemValue item ∈ ["none", "gzip", "zstd"]

/-! ### First refusals -/

@[simp] theorem firstRefusal_nil : firstRefusal [] = none := rfl

@[simp] theorem firstRefusal_cons (check : Check) (rest : List Check) :
    firstRefusal (check :: rest) = if check.fails then some check.refusal else firstRefusal rest := by
  unfold firstRefusal
  cases failing : check.fails <;> simp [failing]

theorem firstRefusal_append (first second : List Check) :
    firstRefusal (first ++ second) = (firstRefusal first).or (firstRefusal second) := by
  induction first with
  | nil => rfl
  | cons check rest ih =>
      rw [List.cons_append, firstRefusal_cons, firstRefusal_cons, ih]
      split <;> rfl

theorem firstRefusal_eq_none {checks : List Check} :
    firstRefusal checks = none ↔ ∀ check ∈ checks, check.fails = false := by
  induction checks with
  | nil => simp
  | cons check rest ih => cases failing : check.fails <;> simp [failing, ih]

theorem verdict_append {α : Type} (first second : List Check) (result : α) :
    verdict (first ++ second) result =
      match firstRefusal first with
      | some error => .error error
      | none => verdict second result := by
  unfold verdict
  rw [firstRefusal_append]
  cases firstRefusal first <;> rfl


@[simp] theorem verdict_nil {α : Type} (result : α) : verdict [] result = .ok result := rfl

@[simp] theorem verdict_cons {α : Type} (check : Check) (rest : List Check) (result : α) :
    verdict (check :: rest) result =
      if check.fails then .error check.refusal else verdict rest result := by
  unfold verdict
  rw [firstRefusal_cons]
  cases check.fails <;> rfl

theorem verdict_of_passed {α : Type} {checks : List Check} (passed : firstRefusal checks = none)
    (result : α) : verdict checks result = .ok result := by
  simp [verdict, passed]

theorem verdict_of_refused {α : Type} {checks : List Check} {error : Error}
    (refused : firstRefusal checks = some error) (result : α) : verdict checks result = .error error := by
  simp [verdict, refused]

/-! ### One option item -/

variable {options item : String} {seen : List (OptionKey × String)}

theorem any_key_eq (seen : List (OptionKey × String)) (key : OptionKey) :
    (seen.any fun entry => entry.1 == key) = decide (key ∈ seen.map Prod.fst) := by
  rw [Bool.eq_iff_iff, List.any_eq_true, decide_eq_true_iff, List.mem_map]
  simp only [beq_iff_eq]

theorem itemKey_of_cut {key value : String} (cut : Text.cutFirst '=' item = some (key, value)) :
    itemKey item = key ∧ itemGiven item = some value := by
  simp [itemKey, itemGiven, cut]

theorem itemKey_of_uncut (cut : Text.cutFirst '=' item = none) :
    itemKey item = item ∧ itemGiven item = none := by
  simp [itemKey, itemGiven, cut]

/-- An item with a known key reads as that key and its value, or is refused by the first of
its checks that fails. -/
theorem readItem_of_known {key : OptionKey} (named : OptionKey.ofName? (itemKey item) = some key) :
    Spec.readItem options seen item =
      verdict (itemChecks options (seen.map Prod.fst) item) (key, itemValue item) := by
  unfold Spec.readItem
  by_cases empty : item.isEmpty = true
  · simp [empty, itemChecks]
  · cases cut : Text.cutFirst '=' item with
    | none =>
        obtain ⟨keyed, given⟩ := itemKey_of_uncut cut
        rw [keyed] at named
        -- a bare key reads as `true` if it is a switch
        cases switch : key.isSwitch <;>
          simp [empty, named, itemChecks, keyed, given, itemValue, switch] <;> rw [any_key_eq]
    | some parts =>
        obtain ⟨keyText, value⟩ := parts
        obtain ⟨keyed, given⟩ := itemKey_of_cut cut
        rw [keyed] at named
        simp [empty, named, itemChecks, keyed, given, itemValue]
        rw [any_key_eq]

/-- An item with no known key is refused by one of its first three checks. -/
theorem readItem_of_unknown (unnamed : OptionKey.ofName? (itemKey item) = none) :
    ∃ error, firstRefusal (itemChecks options (seen.map Prod.fst) item) = some error ∧
      Spec.readItem options seen item = .error error := by
  unfold Spec.readItem
  by_cases empty : item.isEmpty = true
  · exact ⟨.emptyOption options, by simp [itemChecks, empty], by simp [empty]⟩
  · cases cut : Text.cutFirst '=' item with
    | none =>
        obtain ⟨keyed, -⟩ := itemKey_of_uncut cut
        rw [keyed] at unnamed
        exact ⟨.unknownKey item, by simp [itemChecks, keyed, empty, unnamed],
          by simp [empty, unnamed]⟩
    | some parts =>
        obtain ⟨keyText, value⟩ := parts
        obtain ⟨keyed, -⟩ := itemKey_of_cut cut
        rw [keyed] at unnamed
        by_cases keyEmpty : keyText.isEmpty = true
        · exact ⟨.emptyKey item, by simp [itemChecks, keyed, empty, keyEmpty],
            by simp [empty, keyEmpty]⟩
        · exact ⟨.unknownKey keyText, by simp [itemChecks, keyed, empty, keyEmpty, unnamed],
            by simp [empty, keyEmpty, unnamed]⟩

/-! ### The option items in order -/

/-- Reading the items from the entries read so far gives the first refusal of their checks,
or the entries of every item after those. -/
theorem readItems_eq (options : String) (items : List String) (seen : List (OptionKey × String)) :
    items.foldlM (fun seen item => do
        let entry ← Spec.readItem options seen item
        pure (seen ++ [entry])) seen =
      verdict (itemsChecks options (seen.map Prod.fst) items) (seen ++ items.filterMap itemOption?) := by
  induction items generalizing seen with
  | nil => simp [itemsChecks]
  | cons item rest ih =>
      rw [List.foldlM_cons, itemsChecks, verdict_append]
      cases named : OptionKey.ofName? (itemKey item) with
      | none =>
          obtain ⟨error, refused, read⟩ : ∃ error,
              firstRefusal (itemChecks options (seen.map Prod.fst) item) = some error ∧
                Spec.readItem options seen item = .error error := readItem_of_unknown named
          simp [read, refused]
      | some key =>
          rw [readItem_of_known named]
          cases refused : firstRefusal (itemChecks options (seen.map Prod.fst) item) with
          | some error => simp [verdict_of_refused refused]
          | none =>
              -- the item reads as its entry, and the rest are read after it
              simp only [verdict_of_passed refused, Except.ok_bind, pure_bind]
              rw [ih]
              simp [itemOption?, named]

theorem readOptions_eq (options : String) :
    Spec.readOptions options =
      verdict (itemsChecks options [] (Text.pieces ',' options))
        ((Text.pieces ',' options).filterMap itemOption?) := by
  have read := readItems_eq options (Text.pieces ',' options) []
  rw [List.map_nil, List.nil_append] at read
  unfold Spec.readOptions
  exact read

/-! ### Taking out `format` and `compression` -/

theorem ofEntries_eq (text : String) :
    Spec.ofEntries (pathPart text) (entries text) = verdict (compressionChecks text) (reading text) := by
  unfold Spec.ofEntries compressionChecks reading
  cases found : (entries text).find? (fun entry => entry.1 == .compression) with
  | none => simp [lookup, found, Spec.readCompression]
  | some entry =>
      cases compression : Compression.ofName? entry.2 <;>
        simp [lookup, found, Spec.readCompression, compression]


/-! ### The whole reference -/

/-- Reading a text gives the first refusal of the checks of its trimmed form, or the reading
of that form. -/
theorem split_eq (value : String) :
    Spec.split value = verdict (checks (Text.trim value)) (reading (Text.trim value)) := by
  unfold Spec.split
  generalize Text.trim value = text
  by_cases empty : text.isEmpty = true
  · simp [empty, checks, textChecks]
  have present : text.isEmpty = false := by simpa using empty
  have counted := Text.pieces_length '#' text
  -- the text cut at `#`: one piece, two, or more
  cases parts : Text.pieces '#' text with
  | nil => simp [parts] at counted
  | cons path more =>
      have pathIs : pathPart text = path := by simp [pathPart, parts]
      cases more with
      | nil =>
          have hashes : text.toList.count '#' = 0 := by
            simp only [parts, List.length_singleton] at counted
            omega
          have noOptions : optionsPart? text = none := by simp [optionsPart?, parts]
          have noItems : items text = [] := by simp [items, noOptions]
          have built := ofEntries_eq text
          rw [pathIs, show entries text = [] by simp [entries, noItems]] at built
          by_cases pathEmpty : path.isEmpty = true
          · simp [parts, checks, textChecks, present, hashes, pathIs, pathEmpty]
          · simp [parts, checks, textChecks, present, hashes, pathIs, pathEmpty, noOptions, noItems,
              itemsChecks, built]
      | cons options more =>
          cases more with
          | nil =>
              have hashes : text.toList.count '#' = 1 := by
                simp only [parts, List.length_cons, List.length_nil] at counted
                omega
              have optionsIs : optionsPart? text = some options := by simp [optionsPart?, parts]
              have itemsIs : items text = Text.pieces ',' options := by simp [items, optionsIs]
              have built := ofEntries_eq text
              rw [pathIs, entries, itemsIs] at built
              by_cases pathEmpty : path.isEmpty = true
              · simp [parts, checks, textChecks, present, hashes, pathIs, pathEmpty]
              by_cases optionsEmpty : options.isEmpty = true
              · have blank : options = "" := by simpa using optionsEmpty
                simp [parts, checks, textChecks, present, hashes, pathIs, pathEmpty, optionsIs, blank]
              -- past the checks of the text, the items are read, then the compression
              have nonblank : options ≠ "" := by simpa using optionsEmpty
              have passed : firstRefusal (textChecks text) = none := by
                simp [textChecks, present, hashes, pathIs, pathEmpty, optionsIs, nonblank]
              simp only [parts, present, pathEmpty, optionsEmpty, Bool.false_eq_true, if_false,
                Except.throw_eq, Except.error_bind]
              rw [readOptions_eq, checks, List.append_assoc, verdict_append, passed, optionsIs,
                itemsIs, Option.getD_some, verdict_append]
              cases refused : firstRefusal (itemsChecks options [] (Text.pieces ',' options)) with
              | some error => simp [verdict_of_refused refused]
              | none => simp [verdict_of_passed refused, built]
          | cons third more =>
              have hashes : 1 < text.toList.count '#' := by
                simp only [parts, List.length_cons] at counted
                omega
              simp [parts, checks, textChecks, present, hashes]

/-! ### Passing every check -/

theorem named_compression_iff (name : String) :
    (Compression.ofName? name).isSome = true ↔ name ∈ ["none", "gzip", "zstd"] := by
  unfold Compression.ofName?
  split <;> simp_all

/-- What the checks of an item with a known key ask of it. -/
structure ItemFine (key : OptionKey) (item : String) : Prop where
  bare : itemGiven item = none → key.isSwitch = true
  value : itemGiven item ≠ some ""
  switch : key.isSwitch = true → itemValue item = "true" ∨ itemValue item = "false"

theorem itemFine_iff {key : OptionKey} :
    ItemFine key item ↔ (itemGiven item = none → key.isSwitch = true) ∧ itemGiven item ≠ some "" ∧
      (key.isSwitch = true → itemValue item = "true" ∨ itemValue item = "false") :=
  ⟨fun fine => ⟨fine.bare, fine.value, fine.switch⟩, fun ⟨bare, value, switch⟩ => ⟨bare, value, switch⟩⟩

theorem itemChecks_pass (options : String) (earlier : List OptionKey) (item : String) :
    (∀ check ∈ itemChecks options earlier item, check.fails = false) ↔
      ∃ key, OptionKey.ofName? (itemKey item) = some key ∧ key ∉ earlier ∧ ItemFine key item := by
  cases named : OptionKey.ofName? (itemKey item) with
  | none => simp [itemChecks, named]
  | some key =>
      have keyed : itemKey item ≠ "" := by
        intro blank
        rw [blank] at named
        cases named
      have present : item ≠ "" := by
        intro blank
        exact keyed (by rw [blank]; rfl)
      cases switch : key.isSwitch <;>
        simp [itemChecks, named, keyed, present, switch, itemFine_iff, Option.isSome_iff_ne_none,
          Decidable.or_iff_not_imp_left]

/-- The items pass their checks when each has a known key that no item before it has, and
each passes its own checks: so their keys are distinct. -/
theorem itemsChecks_pass (options : String) (earlier : List OptionKey) (items : List String) :
    (∀ check ∈ itemsChecks options earlier items, check.fails = false) ↔
      (∀ item ∈ items, ∃ key, OptionKey.ofName? (itemKey item) = some key ∧ key ∉ earlier ∧
        ItemFine key item) ∧ (items.map itemKey).Nodup := by
  induction items generalizing earlier with
  | nil => simp [itemsChecks]
  | cons item rest ih =>
      rw [itemsChecks, List.forall_mem_append, itemChecks_pass, ih, List.map_cons, List.nodup_cons]
      constructor
      · rintro ⟨⟨key, named, fresh, fine⟩, later, distinct⟩
        simp only [named, Option.toList_some, List.mem_append, List.mem_singleton, not_or] at later
        refine ⟨?_, ?_, distinct⟩
        · intro other mem
          rcases List.mem_cons.1 mem with rfl | mem
          · exact ⟨key, named, fresh, fine⟩
          · obtain ⟨otherKey, otherNamed, ⟨otherFresh, -⟩, otherFine⟩ := later other mem
            exact ⟨otherKey, otherNamed, otherFresh, otherFine⟩
        · -- a later item with the same key text names the same key, which the checks refuse
          intro repeated
          obtain ⟨other, mem, same⟩ := List.mem_map.1 repeated
          obtain ⟨otherKey, otherNamed, ⟨-, different⟩, -⟩ := later other mem
          rw [same, named, Option.some.injEq] at otherNamed
          exact different otherNamed.symm
      · rintro ⟨all, fresh, distinct⟩
        obtain ⟨key, named, unseen, fine⟩ := all item List.mem_cons_self
        refine ⟨⟨key, named, unseen, fine⟩, fun other mem => ?_, distinct⟩
        obtain ⟨otherKey, otherNamed, otherUnseen, otherFine⟩ := all other (List.mem_cons_of_mem _ mem)
        refine ⟨otherKey, otherNamed, ?_, otherFine⟩
        simp only [named, Option.toList_some, List.mem_append, List.mem_singleton, not_or]
        refine ⟨otherUnseen, fun same => fresh ?_⟩
        -- two items naming one key have one key text
        have texts : itemKey other = itemKey item := by
          rw [← OptionKey.name_of_ofName? otherNamed, ← OptionKey.name_of_ofName? named, same]
        exact List.mem_map.2 ⟨other, mem, texts⟩

/-! ### Looking up an option -/

variable {text : String} {key : OptionKey}

theorem lookup_eq_some {value : String} (found : lookup text key = some value) :
    ∃ item ∈ items text, OptionKey.ofName? (itemKey item) = some key ∧ itemValue item = value := by
  obtain ⟨entry, first, rfl⟩ := Option.map_eq_some_iff.1 found
  have keyed := List.find?_some first
  obtain ⟨item, mem, read⟩ := List.mem_filterMap.1 (List.mem_of_find?_eq_some first)
  obtain ⟨named, namedIs, rfl⟩ := Option.map_eq_some_iff.1 read
  rw [beq_iff_eq] at keyed
  subst keyed
  exact ⟨item, mem, namedIs, rfl⟩

theorem lookup_isSome {item : String} (mem : item ∈ items text)
    (named : OptionKey.ofName? (itemKey item) = some key) : (lookup text key).isSome = true := by
  rw [lookup, Option.isSome_map, List.find?_isSome]
  exact ⟨(key, itemValue item), List.mem_filterMap.2 ⟨item, mem, by simp [itemOption?, named]⟩,
    beq_self_eq_true key⟩

/-- With distinct keys, the compression check passes when the `compression` item, if there
is one, names a compression. -/
theorem compressionChecks_pass (distinct : ((items text).map itemKey).Nodup) :
    (∀ check ∈ compressionChecks text, check.fails = false) ↔
      ∀ item ∈ items text, itemKey item = "compression" →
        itemValue item ∈ ["none", "gzip", "zstd"] := by
  unfold compressionChecks
  cases found : lookup text .compression with
  | none =>
      simp only [List.not_mem_nil, false_implies, implies_true, true_iff]
      intro item mem keyed
      have present : (lookup text .compression).isSome = true := lookup_isSome mem (by rw [keyed]; rfl)
      rw [found] at present
      cases present
  | some name =>
      obtain ⟨named, mem, keyed, rfl⟩ := lookup_eq_some found
      have namedKey : itemKey named = "compression" := (OptionKey.name_of_ofName? keyed).symm
      simp only [List.mem_singleton, forall_eq, Option.isNone_eq_false_iff, named_compression_iff]
      constructor
      · intro valid other otherMem otherKey
        have same : other = named :=
          List.inj_on_of_nodup_map distinct otherMem mem (otherKey.trans namedKey.symm)
        rwa [same]
      · intro all
        exact all named mem namedKey

/-! ### The grammar -/

theorem textChecks_pass :
    (∀ check ∈ textChecks text, check.fails = false) ↔
      text ≠ "" ∧ text.toList.count '#' ≤ 1 ∧ pathPart text ≠ "" ∧ optionsPart? text ≠ some "" := by
  simp [textChecks]

/-- A text passes every check exactly when it is well formed. -/
theorem checks_pass_iff : firstRefusal (checks text) = none ↔ WellFormed text := by
  rw [firstRefusal_eq_none, checks, List.append_assoc, List.forall_mem_append, List.forall_mem_append,
    textChecks_pass, itemsChecks_pass]
  constructor
  · rintro ⟨⟨nonempty, oneHash, path, options⟩, ⟨fine, distinct⟩, compression⟩
    rw [compressionChecks_pass distinct] at compression
    refine { nonempty, oneHash, path, options, distinct, compression
             known := fun item mem => ?_, bare := fun item mem given => ?_,
             values := fun item mem => ?_, switches := fun item mem key named switch => ?_ } <;>
      obtain ⟨itemKey, itemNamed, -, itemFine⟩ := fine item mem
    · exact ⟨itemKey, itemNamed⟩
    · exact ⟨itemKey, itemNamed, itemFine.bare given⟩
    · exact itemFine.value
    · rw [itemNamed, Option.some.injEq] at named
      subst named
      exact itemFine.switch switch
  · intro formed
    refine ⟨⟨formed.nonempty, formed.oneHash, formed.path, formed.options⟩,
      ⟨fun item mem => ?_, formed.distinct⟩, (compressionChecks_pass formed.distinct).2 formed.compression⟩
    obtain ⟨key, named⟩ := formed.known item mem
    refine ⟨key, named, List.not_mem_nil, ⟨fun given => ?_, formed.values item mem,
      formed.switches item mem key named⟩⟩
    obtain ⟨bareKey, bareNamed, switch⟩ := formed.bare item mem given
    rw [named, Option.some.injEq] at bareNamed
    rwa [bareNamed]

/-- Reading a written reference succeeds exactly when its trimmed form is well formed, and
then gives the reading of that form; otherwise it is refused with the refusal of the first
check the form fails. -/
theorem split_follows_grammar (value : String) :
    (∀ spec, Spec.split value = .ok spec ↔
      WellFormed (Text.trim value) ∧ spec = reading (Text.trim value)) ∧
    (∀ error, Spec.split value = .error error ↔
      firstRefusal (checks (Text.trim value)) = some error) := by
  rw [split_eq]
  cases refused : firstRefusal (checks (Text.trim value)) with
  | some first =>
      have malformed : ¬ WellFormed (Text.trim value) := fun formed => by
        rw [checks_pass_iff.2 formed] at refused
        cases refused
      rw [verdict_of_refused refused]
      exact ⟨fun spec => iff_of_false nofun (fun read => malformed read.1),
        fun error => ⟨fun read => by rw [Except.error.inj read], fun read => by rw [Option.some.inj read]⟩⟩
  | none =>
      have formed := checks_pass_iff.1 refused
      rw [verdict_of_passed refused]
      refine ⟨fun spec => ⟨fun read => ⟨formed, (Except.ok.inj read).symm⟩, ?_⟩,
        fun error => iff_of_false nofun nofun⟩
      rintro ⟨-, rfl⟩
      rfl

/- A switch's value is checked with its item, the compression only after every item: here
the switch is refused although the compression item stands first. -/
example : firstRefusal (checks "x#compression=bad,use_proto_names=maybe") =
    some (.notSwitch .useProtoNames "maybe") := by
  decide +kernel

end Grammar

end Locator
