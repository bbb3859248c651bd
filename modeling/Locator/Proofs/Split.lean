import Locator.Proofs.Logged
import Locator.Proofs.Registry
import Locator.Proofs.Text

namespace Locator.Spec

/-! # Reading a written reference

`Spec.split` trims the text, cuts it at `#`, reads the option items one after the other
and takes `format` and `compression` out of them. This module states what each step
reads and refuses. Every refusal of `split` is a malformed reference (`split_error`), and
what it reads keeps the shape that makes it writable again (`Readable`): a path that
starts with no blank and holds no `#`, and options whose keys are distinct, whose values
hold no separator, and whose switches are `true` or `false`.
-/

variable {options item : String} {seen : List (OptionKey × String)}

/-- The text an option entry is written as. -/
def entryText (entry : OptionKey × String) : String :=
  entry.1.name ++ "=" ++ entry.2

/-! ### One option item -/

theorem readItem_error {error : Error} (failed : readItem options seen item = .error error) :
    error.category = .malformed := by
  unfold readItem at failed
  simp only [bind, Except.bind, pure, Except.pure, throw, throwThe, MonadExceptOf.throw] at failed
  -- every branch either throws a malformed-item error or succeeds
  repeat' split at failed
  all_goals simp only [reduceCtorEq, Except.error.injEq] at failed
  all_goals
    subst failed
    rfl

/-- An item reads as a key not read before, with a non-empty value that a switch keeps to
`true` or `false`; the item is `key=value`, or a bare switch key meaning `true`. -/
theorem readItem_ok {key : OptionKey} {value : String}
    (read : readItem options seen item = .ok (key, value)) :
    key ∉ seen.map Prod.fst ∧ value ≠ "" ∧ (key.isSwitch → value = "true" ∨ value = "false") ∧
      (item.toList = key.name.toList ++ '=' :: value.toList ∨
        item = key.name ∧ key.isSwitch ∧ value = "true") := by
  have present : item.isEmpty = false := by
    cases empty : item.isEmpty
    · rfl
    · simp [readItem, empty] at read
  cases cut : Text.cutFirst '=' item with
  | none =>
      -- a bare key: it must be a switch, and reads as `true`
      cases named : OptionKey.ofName? item with
      | none => simp [readItem, present, cut, named] at read
      | some found =>
          cases repeated : seen.any fun entry => entry.1 == found
          · cases switch : found.isSwitch
            · simp [readItem, present, cut, named, repeated, switch] at read
            · simp [readItem, present, cut, named, repeated, switch] at read
              obtain ⟨rfl, rfl⟩ := read
              simp only [List.any_eq_false, beq_iff_eq] at repeated
              refine ⟨fun listed => ?_, by decide, fun _ => Or.inl rfl,
                Or.inr ⟨(OptionKey.name_of_ofName? named).symm, switch, rfl⟩⟩
              obtain ⟨entry, member, rfl⟩ := List.mem_map.mp listed
              exact repeated entry member rfl
          · simp [readItem, present, cut, named, repeated] at read
  | some parts =>
      obtain ⟨keyText, given⟩ := parts
      obtain ⟨shape, -⟩ := Text.cutFirst_eq_some cut
      have keyed : keyText.isEmpty = false := by
        cases empty : keyText.isEmpty
        · rfl
        · simp [readItem, present, cut, empty] at read
      cases named : OptionKey.ofName? keyText with
      | none => simp [readItem, present, cut, keyed, named] at read
      | some found =>
          cases repeated : seen.any fun entry => entry.1 == found
          · cases blank : given.isEmpty
            · simp [readItem, present, cut, keyed, named, repeated, blank] at read
              split at read
              · cases read
              · rename_i checked
                simp only [Except.ok.injEq, Prod.mk.injEq] at read
                obtain ⟨rfl, rfl⟩ := read
                simp only [List.any_eq_false, beq_iff_eq] at repeated
                refine ⟨fun listed => ?_, String.isEmpty_eq_false_iff.mp blank,
                  fun switch => ?_, Or.inl ?_⟩
                · obtain ⟨entry, member, rfl⟩ := List.mem_map.mp listed
                  exact repeated entry member rfl
                · simp only [not_and, Decidable.not_not] at checked
                  by_cases isTrue : given = "true"
                  · exact Or.inl isTrue
                  · exact Or.inr (checked switch isTrue)
                · rw [shape, OptionKey.name_of_ofName? named]
            · simp [readItem, present, cut, keyed, named, repeated, blank] at read
          · simp [readItem, present, cut, keyed, named, repeated] at read

/-- An entry written as `key=value` reads back, when its key is new and its value is one
the key takes. -/
theorem readItem_entryText {entry : OptionKey × String} (fresh : entry.1 ∉ seen.map Prod.fst)
    (given : entry.2 ≠ "") (switch : entry.1.isSwitch → entry.2 = "true" ∨ entry.2 = "false") :
    readItem options seen (entryText entry) = .ok entry := by
  obtain ⟨key, value⟩ := entry
  obtain ⟨named, noEquals, -, -⟩ := OptionKey.name_plain key
  have cut : Text.cutFirst '=' (entryText (key, value)) = some (key.name, value) :=
    Text.cutFirst_append noEquals value
  have repeated : (seen.any fun entry => entry.1 == key) = false := by
    simp only [List.any_eq_false, beq_iff_eq]
    intro entry member same
    exact fresh (List.mem_map.mpr ⟨entry, member, same⟩)
  have checked : ¬(key.isSwitch = true ∧ ¬value = "true" ∧ ¬value = "false") := by
    rintro ⟨isSwitch, notTrue, notFalse⟩
    rcases switch isSwitch with same | same
    · exact notTrue same
    · exact notFalse same
  have present : (entryText (key, value)).isEmpty = false := by
    simp [entryText, named]
  simp [readItem, present, cut, named, repeated, given, checked]

/-! ### The option items in order -/

/-- Reading the items one after the other keeps any property of the entries read so far
that reading one more item keeps. -/
theorem readOptions_invariant (holds : List (OptionKey × String) → Prop) (start : holds [])
    (step : ∀ seen item entry, item ∈ Text.pieces ',' options → holds seen →
      readItem options seen item = .ok entry → holds (seen ++ [entry]))
    {entries : List (OptionKey × String)} (read : readOptions options = .ok entries) :
    holds entries := by
  -- the fold runs over a suffix of the items, starting from entries that satisfy `holds`
  suffices running : ∀ (items : List String) (seen : List (OptionKey × String)),
      (∀ item ∈ items, item ∈ Text.pieces ',' options) →
      holds seen → items.foldlM (fun seen item => do
        let entry ← readItem options seen item
        pure (seen ++ [entry])) seen = .ok entries → holds entries from
    running _ [] (fun _ member => member) start read
  intro items
  induction items with
  | nil =>
      intro seen _ holding folded
      cases folded
      exact holding
  | cons item rest ih =>
      intro seen listed holding folded
      rw [List.foldlM_cons] at folded
      obtain ⟨next, stepped, folded⟩ := Except.bind_eq_ok folded
      obtain ⟨entry, readOne, appended⟩ := Except.bind_eq_ok stepped
      cases appended
      exact ih _ (fun piece member => listed piece (List.mem_cons_of_mem _ member))
        (step seen item entry (listed item List.mem_cons_self) holding readOne) folded

theorem readOptions_error {error : Error} (failed : readOptions options = .error error) :
    error.category = .malformed := by
  suffices running : ∀ (items : List String) (seen : List (OptionKey × String)),
      items.foldlM (fun seen item => do
      let entry ← readItem options seen item
      pure (seen ++ [entry])) seen = .error error → error.category = .malformed from
    running _ [] failed
  intro items
  induction items with
  | nil =>
      intro seen folded
      cases folded
  | cons item rest ih =>
      intro seen folded
      rw [List.foldlM_cons] at folded
      rcases Except.bind_eq_error folded with stepped | ⟨next, _, folded⟩
      · rcases Except.bind_eq_error stepped with readOne | ⟨entry, _, appended⟩
        · exact readItem_error readOne
        · cases appended
      · exact ih next folded

/-- Entries with distinct keys and values without commas read back from their written
form. -/
theorem readOptions_joinWith {entries : List (OptionKey × String)} (nonempty : entries ≠ [])
    (distinct : (entries.map Prod.fst).Nodup)
    (values : ∀ entry ∈ entries, entry.2 ≠ "" ∧ ',' ∉ entry.2.toList)
    (switches : ∀ entry ∈ entries, entry.1.isSwitch → entry.2 = "true" ∨ entry.2 = "false") :
    readOptions (Text.joinWith "," (entries.map entryText)) = .ok entries := by
  have cut : Text.pieces ',' (Text.joinWith (String.singleton ',') (entries.map entryText)) =
      entries.map entryText := by
    apply Text.pieces_joinWith (by simpa using nonempty)
    intro text listed
    obtain ⟨entry, member, rfl⟩ := List.mem_map.mp listed
    have plain := (OptionKey.name_plain entry.1).2.2.1
    simp [entryText, String.toList_append, plain, (values entry member).2]
  unfold readOptions
  rw [show "," = String.singleton ',' from rfl, cut]
  -- each item reads back its entry, given the entries before it
  suffices running : ∀ (rest seen : List (OptionKey × String)), (∀ entry ∈ rest, entry ∈ entries) →
      ((seen ++ rest).map Prod.fst).Nodup → (rest.map entryText).foldlM
        (fun seen item => do
          let entry ← readItem (Text.joinWith "," (entries.map entryText)) seen item
          pure (seen ++ [entry])) seen = .ok (seen ++ rest) by
    simpa using running entries [] (fun _ member => member) (by simpa using distinct)
  intro rest
  induction rest with
  | nil => intro seen _ _; simp
  | cons entry more ih =>
      intro seen listed unique
      have member := listed entry List.mem_cons_self
      have fresh : entry.1 ∉ seen.map Prod.fst := by
        simp only [List.map_append, List.map_cons] at unique
        exact fun present => (List.nodup_append.mp unique).2.2 _ present _ List.mem_cons_self rfl
      rw [List.map_cons, List.foldlM_cons,
        readItem_entryText fresh (values entry member).1 (switches entry member)]
      simpa using ih (seen ++ [entry])
        (fun other inside => listed other (List.mem_cons_of_mem _ inside)) (by simpa using unique)

/-! ### Taking out `format` and `compression` -/

theorem readCompression_error {given : Option String} {error : Error}
    (failed : readCompression given = .error error) : error.category = .malformed := by
  unfold readCompression at failed
  split at failed
  · cases failed
  · split at failed
    · cases failed
    · cases failed
      rfl

theorem ofEntries_error {path : String} {entries : List (OptionKey × String)} {error : Error}
    (failed : ofEntries path entries = .error error) : error.category = .malformed := by
  unfold ofEntries at failed
  rcases Except.bind_eq_error failed with unread | ⟨compression, _, built⟩
  · exact readCompression_error unread
  · cases built

theorem ofEntries_ok {path : String} {entries : List (OptionKey × String)} {spec : Spec}
    (read : ofEntries path entries = .ok spec) :
    spec.path = path ∧ spec.format = (entries.find? fun entry => entry.1 == .format).map Prod.snd ∧
      readCompression ((entries.find? fun entry => entry.1 == .compression).map Prod.snd) =
        .ok spec.compression ∧
      spec.options = entries.filter fun entry => entry.1 != .format && entry.1 != .compression := by
  unfold ofEntries at read
  obtain ⟨compression, readOne, built⟩ := Except.bind_eq_ok read
  simp only [Except.pure_eq, Except.ok.injEq] at built
  subst built
  exact ⟨rfl, rfl, readOne, rfl⟩

/-! ### The whole reference -/

theorem split_error {value : String} {error : Error} (failed : split value = .error error) :
    error.category = .malformed := by
  unfold split at failed
  simp only [Except.throw_eq, Except.error_bind] at failed
  -- the checks of the text, the path and the options text each throw a malformed error
  split at failed
  · cases failed
    rfl
  · split at failed
    · split at failed
      · cases failed
        rfl
      · exact ofEntries_error failed
    · split at failed
      · cases failed
        rfl
      · split at failed
        · cases failed
          rfl
        · rcases Except.bind_eq_error failed with unread | ⟨entries, _, built⟩
          · exact readOptions_error unread
          · exact ofEntries_error built
    · cases failed
      rfl

/-- A reference that reads is a non-empty path, alone or followed after its only `#` by a
non-empty options text, and the entries read from it. -/
theorem split_ok {value : String} {spec : Spec} (read : split value = .ok spec) :
    spec.path ≠ "" ∧ ∃ entries, ofEntries spec.path entries = .ok spec ∧
      (Text.pieces '#' (Text.trim value) = [spec.path] ∧ entries = [] ∨
        ∃ options, Text.pieces '#' (Text.trim value) = [spec.path, options] ∧ options ≠ "" ∧
          readOptions options = .ok entries) := by
  unfold split at read
  simp only [Except.throw_eq, Except.error_bind] at read
  split at read
  · cases read
  · split at read
    · rename_i path cut
      split at read
      · cases read
      · rename_i present
        obtain ⟨named, -⟩ := ofEntries_ok read
        subst named
        exact ⟨String.isEmpty_eq_false_iff.mp (Bool.of_not_eq_true present), [], read,
          Or.inl ⟨cut, rfl⟩⟩
    · rename_i path options cut
      split at read
      · cases read
      · rename_i present
        split at read
        · cases read
        · rename_i given
          obtain ⟨entries, readAll, built⟩ := Except.bind_eq_ok read
          obtain ⟨named, -⟩ := ofEntries_ok built
          subst named
          exact ⟨String.isEmpty_eq_false_iff.mp (Bool.of_not_eq_true present), entries, built,
            Or.inr ⟨options, cut, String.isEmpty_eq_false_iff.mp (Bool.of_not_eq_true given),
              readAll⟩⟩
    · cases read

/-! ### References that read back from their written form -/

/-- The shape a read reference has, and what makes its written form read back to it. -/
structure Readable (spec : Spec) : Prop where
  path_ne : spec.path ≠ ""
  path_start : ∀ c ∈ spec.path.toList.head?, Text.isBlank c = false
  path_plain : '#' ∉ spec.path.toList
  format_plain : ∀ name, spec.format = some name →
    name ≠ "" ∧ ',' ∉ name.toList ∧ '#' ∉ name.toList
  distinct : (spec.options.map Prod.fst).Nodup
  plain_keys : ∀ entry ∈ spec.options, entry.1 ≠ .format ∧ entry.1 ≠ .compression
  values : ∀ entry ∈ spec.options, entry.2 ≠ "" ∧ ',' ∉ entry.2.toList ∧ '#' ∉ entry.2.toList
  switches : ∀ entry ∈ spec.options, entry.1.isSwitch → entry.2 = "true" ∨ entry.2 = "false"

/-- What reading option items keeps: distinct keys, and non-empty values that hold no
separator and keep a switch to `true` or `false`. -/
def PlainEntries (entries : List (OptionKey × String)) : Prop :=
  (entries.map Prod.fst).Nodup ∧ ∀ entry ∈ entries, entry.2 ≠ "" ∧ ',' ∉ entry.2.toList ∧
    '#' ∉ entry.2.toList ∧ (entry.1.isSwitch → entry.2 = "true" ∨ entry.2 = "false")

theorem readOptions_plain {entries : List (OptionKey × String)} (hashFree : '#' ∉ options.toList)
    (read : readOptions options = .ok entries) : PlainEntries entries := by
  apply readOptions_invariant PlainEntries ⟨List.nodup_nil, by simp⟩ _ read
  intro seen item ⟨key, value⟩ cut ⟨distinct, plain⟩ readOne
  obtain ⟨fresh, given, switch, shape⟩ := readItem_ok readOne
  obtain ⟨commaFree, within⟩ := Text.mem_pieces cut
  -- each character of the value stands in the item, or the value is the `true` of a bare key
  have inside : ∀ c ∈ value.toList, c ∈ item.toList ∨ value = "true" := by
    intro c member
    rcases shape with written | ⟨-, -, isTrue⟩
    · exact Or.inl (by rw [written]; exact List.mem_append_right _ (List.mem_cons_of_mem _ member))
    · exact Or.inr isTrue
  refine ⟨?_, fun entry member => ?_⟩
  · rw [List.map_append, List.nodup_append]
    refine ⟨distinct, by simp, fun other present added listed => ?_⟩
    simp only [List.map_cons, List.map_nil, List.mem_singleton] at listed
    subst listed
    exact fun same => fresh (same ▸ present)
  · rcases List.mem_append.mp member with earlier | added
    · exact plain entry earlier
    · simp only [List.mem_singleton] at added
      subst added
      refine ⟨given, fun comma => ?_, fun hash => ?_, switch⟩
      · rcases inside ',' comma with present | isTrue
        · exact commaFree present
        · have plainTrue : ',' ∉ "true".toList := by decide
          exact plainTrue (isTrue ▸ comma)
      · rcases inside '#' hash with present | isTrue
        · exact hashFree (within '#' present)
        · have plainTrue : '#' ∉ "true".toList := by decide
          exact plainTrue (isTrue ▸ hash)

theorem split_readable {value : String} {spec : Spec} (read : split value = .ok spec) :
    spec.Readable := by
  obtain ⟨named, entries, built, shape⟩ := split_ok read
  obtain ⟨-, format, -, options⟩ := ofEntries_ok built
  -- the path is the first piece of the trimmed text, whose first character is no blank
  have first : ∃ more, Text.pieces '#' (Text.trim value) = spec.path :: more := by
    rcases shape with ⟨cut, -⟩ | ⟨rest, cut, -⟩
    · exact ⟨[], cut⟩
    · exact ⟨[rest], cut⟩
  obtain ⟨more, cut⟩ := first
  have start : ∀ c ∈ spec.path.toList.head?, Text.isBlank c = false := by
    intro c found
    obtain ⟨after, rebuilt⟩ := Text.pieces_head_prefix cut
    have ends := (Text.trimCharsBy_ends Text.isBlank value.toList).1 c
    simp only [Text.trim, Text.trimChars, String.toList_ofList] at rebuilt
    rw [← rebuilt, List.head?_append, Option.mem_def.mp found] at ends
    exact ends rfl
  have plain : PlainEntries entries := by
    rcases shape with ⟨-, rfl⟩ | ⟨rest, cutRest, -, readAll⟩
    · exact ⟨List.nodup_nil, by simp⟩
    · have listed : rest ∈ Text.pieces '#' (Text.trim value) := by simp [cutRest]
      exact readOptions_plain (Text.mem_pieces listed).1 readAll
  obtain ⟨distinct, values⟩ := plain
  have pathPiece : spec.path ∈ Text.pieces '#' (Text.trim value) := by
    rw [cut]
    exact List.mem_cons_self
  refine ⟨named, start, (Text.mem_pieces pathPiece).1, fun name given => ?_, ?_, ?_,
    fun entry member => ?_, fun entry member => ?_⟩
  · rw [format] at given
    obtain ⟨found, lookup, rfl⟩ := Option.map_eq_some_iff.mp given
    obtain ⟨nonempty, commaFree, hashFree, -⟩ := values found (List.mem_of_find?_eq_some lookup)
    exact ⟨nonempty, commaFree, hashFree⟩
  · rw [options]
    exact distinct.sublist (List.filter_sublist.map Prod.fst)
  · intro entry member
    rw [options, List.mem_filter] at member
    simpa using member.2
  · rw [options, List.mem_filter] at member
    obtain ⟨nonempty, commaFree, hashFree, -⟩ := values entry member.1
    exact ⟨nonempty, commaFree, hashFree⟩
  · rw [options, List.mem_filter] at member
    exact (values entry member.1).2.2.2

/-- The option entries a reference is written with: its format when non-empty, its
compression when known, then its other options. -/
def writtenEntries (spec : Spec) : List (OptionKey × String) :=
  let format := match spec.format with
    | some name => if name.isEmpty then [] else [(OptionKey.format, name)]
    | none => []
  let compression := match spec.compression with
    | some compression => [(OptionKey.compression, compression.name)]
    | none => []
  format ++ compression ++ spec.options

theorem renderOptions_eq (spec : Spec) :
    spec.renderOptions = spec.writtenEntries.map entryText := by
  have formatText : ∀ name, "format=" ++ name = entryText (.format, name) := fun name =>
    congrArg (· ++ name) (by decide : "format=" = OptionKey.format.name ++ "=")
  have compressionText : ∀ compression : Compression,
      "compression=" ++ compression.name = entryText (.compression, compression.name) :=
    fun compression =>
      congrArg (· ++ compression.name)
        (by decide : "compression=" = OptionKey.compression.name ++ "=")
  obtain ⟨path, format, compression, options⟩ := spec
  simp only [renderOptions, writtenEntries, List.map_append]
  congr 1
  congr 1
  · cases format with
    | none => rfl
    | some name => by_cases empty : name.isEmpty <;> simp [empty, formatText]
  · cases compression with
    | none => rfl
    | some compression => simp [compressionText]

theorem PlainEntries.append {front back : List (OptionKey × String)}
    (plainFront : PlainEntries front) (plainBack : PlainEntries back) (apart : ∀ key ∈ front.map Prod.fst, key ∉ back.map Prod.fst) :
    PlainEntries (front ++ back) := by
  refine ⟨?_, fun entry member => ?_⟩
  · rw [List.map_append, List.nodup_append]
    exact ⟨plainFront.1, plainBack.1, fun key inFront other inBack same =>
      apart key inFront (same ▸ inBack)⟩
  · rcases List.mem_append.mp member with inFront | inBack
    · exact plainFront.2 entry inFront
    · exact plainBack.2 entry inBack

theorem writtenEntries_plain {spec : Spec} (readable : spec.Readable) :
    PlainEntries spec.writtenEntries := by
  obtain ⟨path, format, compression, options⟩ := spec
  have plainOptions : PlainEntries options := ⟨readable.distinct, fun entry member =>
    ⟨(readable.values entry member).1, (readable.values entry member).2.1,
      (readable.values entry member).2.2, readable.switches entry member⟩⟩
  -- the format and compression entries come first, with keys that no other option has
  have apart : ∀ key, key = OptionKey.format ∨ key = .compression → key ∉ options.map Prod.fst := by
    intro key named listed
    obtain ⟨entry, member, rfl⟩ := List.mem_map.mp listed
    rcases named with isFormat | isCompression
    · exact (readable.plain_keys entry member).1 isFormat
    · exact (readable.plain_keys entry member).2 isCompression
  cases format with
  | none =>
      cases compression with
      | none => simpa [writtenEntries] using plainOptions
      | some compression =>
          obtain ⟨named, commaFree, hashFree⟩ := Compression.name_plain compression
          apply PlainEntries.append _ plainOptions (by simpa using apart .compression (Or.inr rfl))
          simp [PlainEntries, named, commaFree, hashFree, OptionKey.isSwitch]
  | some name =>
      obtain ⟨nonempty, nameComma, nameHash⟩ := readable.format_plain name rfl
      cases compression with
      | none =>
          apply PlainEntries.append _ plainOptions
            (by simpa [nonempty] using apart .format (Or.inl rfl))
          simp [PlainEntries, nonempty, nameComma, nameHash, OptionKey.isSwitch]
      | some compression =>
          obtain ⟨named, commaFree, hashFree⟩ := Compression.name_plain compression
          refine PlainEntries.append ?_ plainOptions fun key listed => apart key ?_
          · simp [PlainEntries, nonempty, nameComma, nameHash, named, commaFree, hashFree,
              OptionKey.isSwitch]
          · simpa [nonempty] using listed

theorem ofEntries_writtenEntries {spec : Spec} (readable : spec.Readable) :
    ofEntries spec.path spec.writtenEntries = .ok spec := by
  obtain ⟨path, format, compression, options⟩ := spec
  have noFormat : options.find? (fun entry => entry.1 == .format) = none :=
    List.find?_eq_none.mpr fun entry member => by simp [(readable.plain_keys entry member).1]
  have noCompression : options.find? (fun entry => entry.1 == .compression) = none :=
    List.find?_eq_none.mpr fun entry member => by simp [(readable.plain_keys entry member).2]
  have kept : options.filter (fun entry => entry.1 != .format && entry.1 != .compression) =
      options :=
    List.filter_eq_self.mpr fun entry member => by simp [readable.plain_keys entry member]
  -- The format and compression entries are written in front of the options, which hold
  -- neither key, so looking either key up finds the written entry or nothing.
  cases format with
  | none =>
      cases compression with
      | none => simp [ofEntries, writtenEntries, readCompression, noFormat, noCompression, kept]
      | some compression =>
          simp [ofEntries, writtenEntries, readCompression, noFormat, kept]
  | some name =>
      have nonempty := (readable.format_plain name rfl).1
      cases compression with
      | none =>
          simp [ofEntries, writtenEntries, readCompression, noCompression, kept, nonempty]
      | some compression =>
          simp [ofEntries, writtenEntries, readCompression, kept, nonempty]

/-- The text of every written entry holds no `#`. -/
theorem hash_not_mem_joinWith {entries : List (OptionKey × String)} (plain : PlainEntries entries) :
    '#' ∉ (Text.joinWith "," (entries.map entryText)).toList := by
  intro member
  rcases Text.mem_joinWith member with inComma | ⟨text, listed, inText⟩
  · exact absurd inComma (by decide)
  · obtain ⟨entry, inEntries, rfl⟩ := List.mem_map.mp listed
    have keyFree := (OptionKey.name_plain entry.1).2.2.2
    have valueFree := (plain.2 entry inEntries).2.2.1
    simp only [entryText, String.toList_append, List.mem_append] at inText
    rcases inText with (inKey | inEquals) | inValue
    · exact keyFree inKey
    · exact absurd inEquals (by decide)
    · exact valueFree inValue

theorem joinWith_entryText_ne (first : OptionKey × String) (more : List (OptionKey × String)) :
    Text.joinWith "," ((first :: more).map entryText) ≠ "" := by
  intro empty
  have chars := congrArg String.toList empty
  rw [Text.joinWith_toList, List.map_map, List.map_cons] at chars
  have named := (OptionKey.name_plain first.1).1
  cases more with
  | nil => simp [entryText, named] at chars
  | cons second rest => simp [entryText, named] at chars

/-- A readable reference whose written form does not end in a blank reads back from it. -/
theorem split_render {spec : Spec} (readable : spec.Readable)
    (ending : Text.endsInBlank spec.render = false) : split spec.render = .ok spec := by
  have plain := writtenEntries_plain readable
  have built := ofEntries_writtenEntries readable
  have present : spec.path.isEmpty = false := by simpa using readable.path_ne
  -- the written form starts with the path, whose first character is no blank
  have starts : ∀ c ∈ spec.render.toList.head?, Text.isBlank c = false := by
    intro c found
    apply readable.path_start c
    have prefixed : spec.path.toList <+: spec.render.toList := by
      unfold render
      split
      · exact List.prefix_refl _
      · exact ⟨"#".toList ++ (Text.joinWith "," spec.renderOptions).toList,
          by simp only [String.toList_append, List.append_assoc]⟩
    obtain ⟨rest, rebuilt⟩ := prefixed
    cases pathChars : spec.path.toList with
    | nil => exact absurd (String.toList_eq_nil_iff.mp pathChars) readable.path_ne
    | cons head tail =>
        rw [← rebuilt, pathChars] at found
        simpa using found
  have trimmed := Text.trim_eq_self starts ending
  cases entries : spec.writtenEntries with
  | nil =>
      have alone : spec.render = spec.path := by
        simp [render, renderOptions_eq, entries]
      have cut : Text.pieces '#' spec.path = [spec.path] := by
        simp [Text.pieces, Text.pieceChars_of_not_mem readable.path_plain, String.ofList_toList]
      rw [entries] at built
      rw [alone] at trimmed ⊢
      simp [split, trimmed, cut, present, built]
  | cons first more =>
      rw [entries] at plain built
      have joined :
          spec.render = spec.path ++ "#" ++ Text.joinWith "," ((first :: more).map entryText) := by
        simp [render, renderOptions_eq, entries]
      have cut : Text.pieces '#' spec.render =
          [spec.path, Text.joinWith "," ((first :: more).map entryText)] := by
        rw [joined, Text.pieces, String.toList_append, String.toList_append]
        simp only [show "#".toList = ['#'] from rfl, List.append_assoc, List.singleton_append]
        rw [Text.pieceChars_append readable.path_plain,
          Text.pieceChars_of_not_mem (hash_not_mem_joinWith plain)]
        simp [String.ofList_toList]
      have readAll := readOptions_joinWith (List.cons_ne_nil first more) plain.1
        (fun entry member => ⟨(plain.2 entry member).1, (plain.2 entry member).2.1⟩)
        (fun entry member => (plain.2 entry member).2.2.2)
      have given := joinWith_entryText_ne first more
      have rendered : spec.render.isEmpty = false := by
        rw [joined]
        simp [readable.path_ne]
      simp only [List.map_cons] at cut readAll given
      simp [split, trimmed, rendered, cut, present, given, readAll, built]

end Locator.Spec
