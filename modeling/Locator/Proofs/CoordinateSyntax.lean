import Locator.Coordinate
import Locator.Proofs.Text
import Locator.Proofs.Grammar

namespace Locator.Coordinate

/-! # The language of module coordinates

A coordinate is `remote/owner/repository[:revision]`. Its parts are matched by two
patterns anchored at both ends, with ASCII classes: an owner or a repository is
`[A-Za-z0-9][A-Za-z0-9._-]*`, a remote `[A-Za-z0-9][A-Za-z0-9.-]*(:[0-9]+)?`. The end
anchor also matches before one final line feed, so each of the three may end in one.
`Word`, `HostPort` and `Anchored` state these languages by what the text is made of, and
`isPart_iff` and `isRemote_iff` show that the scans of `parse` decide exactly them.

A text passes the checks of `checks` in the order parsing makes them: not empty, three
slash-separated parts, a non-empty revision without a colon in the last part (cut at its
first colon), then the remote, the owner and the repository. It reads as a coordinate
exactly when it is well formed, is refused with the refusal of the first check it fails
otherwise, and writing what it reads gives the text back (`parse_follows_grammar`).
-/

/-! ### The patterns -/

/-- Characters that form `[A-Za-z0-9][rest]*`: an ASCII letter or digit, then characters
of the class `rest`. -/
def Word (rest : Char → Bool) (cs : List Char) : Prop :=
  ∃ first more, cs = first :: more ∧ isAlnum first = true ∧ ∀ c ∈ more, rest c = true

/-- Characters that form `[A-Za-z0-9][A-Za-z0-9.-]*(:[0-9]+)?`: a host, then optionally a
colon and ASCII digits. -/
def HostPort (cs : List Char) : Prop :=
  ∃ host port, cs = host ++ port ∧ Word isHostChar host ∧
    (port = [] ∨ ∃ digits, port = ':' :: digits ∧ digits ≠ [] ∧ ∀ d ∈ digits, '0' ≤ d ∧ d ≤ '9')

/-- What a pattern between a start and an end anchor matches: a text of the pattern,
optionally followed by the one line feed before which the end anchor also matches. -/
def Anchored (pattern : List Char → Prop) (cs : List Char) : Prop :=
  pattern cs ∨ ∃ body, cs = body ++ ['\n'] ∧ pattern body

/-- A valid remote. -/
def ValidRemote (s : String) : Prop :=
  Anchored HostPort s.toList

/-- A valid owner or repository. -/
def ValidName (s : String) : Prop :=
  Anchored (Word isPartChar) s.toList

variable {rest : Char → Bool} {cs : List Char} {s : String}

theorem isWord_iff : isWord rest cs = true ↔ Word rest cs := by
  cases cs with
  | nil => simp [isWord, Word]
  | cons first more => simp [isWord, Word, List.all_eq_true]

/-- A word holds no character that can neither start it nor follow the start. -/
theorem Word.not_mem {c : Char} (first : isAlnum c = false) (later : rest c = false)
    (word : Word rest cs) : c ∉ cs := by
  obtain ⟨head, more, rfl, alnum, tail⟩ := word
  intro member
  rcases List.mem_cons.mp member with rfl | inner
  · rw [first] at alnum
    cases alnum
  · rw [tail c inner] at later
    cases later

theorem HostPort.feed_not_mem (address : HostPort cs) : '\n' ∉ cs := by
  obtain ⟨host, port, rfl, word, bare | ⟨digits, rfl, -, decimal⟩⟩ := address
  · simpa [bare] using word.not_mem (by decide) (by decide)
  · -- a line feed is neither a host character nor a digit
    have digitFree : '\n' ∉ digits := fun member => absurd (decimal _ member).1 (by decide)
    simpa [digitFree] using word.not_mem (by decide) (by decide)

/-- For a pattern that never holds a line feed, the anchored pattern is the pattern after
one final line feed is dropped. -/
theorem anchored_iff {pattern : List Char → Prop} (unfed : ∀ cs, pattern cs → '\n' ∉ cs) :
    Anchored pattern cs ↔ pattern (withoutFinalNewline cs) := by
  unfold Anchored withoutFinalNewline
  by_cases ends : cs.getLast? = some '\n'
  · obtain ⟨body, rfl⟩ := List.getLast?_eq_some_iff.mp ends
    rw [if_pos ends, List.dropLast_concat]
    constructor
    · rintro (whole | ⟨other, same, matched⟩)
      · exact absurd (List.mem_append_right _ (List.mem_singleton_self _)) (unfed _ whole)
      · rwa [List.append_cancel_right same]
    · exact fun matched => Or.inr ⟨body, rfl, matched⟩
  · rw [if_neg ends]
    constructor
    · rintro (whole | ⟨body, rfl, -⟩)
      · exact whole
      · simp at ends
    · exact Or.inl

theorem isHostAddress_iff : isHostAddress cs = true ↔ HostPort cs := by
  have colonFree : ∀ {host}, Word isHostChar host → ':' ∉ host :=
    fun word => word.not_mem (by decide) (by decide)
  unfold isHostAddress
  cases cut : Text.cutFirstChars ':' cs with
  | none =>
      have absent := Text.cutFirstChars_eq_none cut
      rw [isWord_iff]
      constructor
      · exact fun word => ⟨cs, [], by simp, word, Or.inl rfl⟩
      · rintro ⟨host, port, rfl, word, rfl | ⟨digits, rfl, -, -⟩⟩
        · simpa using word
        · exact absurd (by simp) absent
  | some parts =>
      obtain ⟨host, digits⟩ := parts
      obtain ⟨rfl, -⟩ := Text.cutFirstChars_eq_some cut
      simp only [Bool.and_eq_true, isWord_iff, Bool.not_eq_true', List.isEmpty_eq_false_iff,
        List.all_eq_true, decide_eq_true_eq]
      constructor
      · rintro ⟨⟨word, nonempty⟩, decimal⟩
        exact ⟨host, ':' :: digits, rfl, word, Or.inr ⟨digits, rfl, nonempty, decimal⟩⟩
      · rintro ⟨other, port, same, word, rfl | ⟨others, rfl, nonempty, decimal⟩⟩
        · -- a host alone holds no colon, but the text does
          rw [List.append_nil] at same
          exact absurd (same ▸ by simp) (colonFree word)
        · -- both texts are cut at their first colon
          rw [same, Text.cutFirstChars_append (colonFree word)] at cut
          obtain ⟨rfl, rfl⟩ := Prod.mk.inj (Option.some.inj cut)
          exact ⟨⟨word, nonempty⟩, decimal⟩

theorem isRemote_iff : isRemote s = true ↔ ValidRemote s := by
  rw [isRemote, isHostAddress_iff, ValidRemote, anchored_iff fun _ => HostPort.feed_not_mem]

theorem isPart_iff : isPart s = true ↔ ValidName s := by
  rw [isPart, isWord_iff, ValidName,
    anchored_iff fun _ word => Word.not_mem (by decide) (by decide) word]

instance : DecidablePred ValidRemote := fun _ => decidable_of_iff _ isRemote_iff

instance : DecidablePred ValidName := fun _ => decidable_of_iff _ isPart_iff

/-! ### The parts of a coordinate text -/

/-- The slash-separated parts of a text. -/
def parts (value : String) : List String :=
  Text.pieces '/' value

/-- The remote: the first part. -/
def remotePart (value : String) : String :=
  (parts value).getD 0 ""

/-- The owner: the second part. -/
def ownerPart (value : String) : String :=
  (parts value).getD 1 ""

/-- The last of three parts: the repository and the revision. -/
def lastPart (value : String) : String :=
  (parts value).getD 2 ""

/-- The repository of a last part: the text before its first colon, or all of it. -/
def repositoryOf (last : String) : String :=
  match Text.cutFirst ':' last with
  | some (repository, _) => repository
  | none => last

/-- The revision of a last part: the text after its first colon, if it has one. -/
def revisionOf (last : String) : Option String :=
  (Text.cutFirst ':' last).map Prod.snd

/-- The coordinate a well-formed text reads as. -/
def reading (value : String) : Coordinate where
  remote := remotePart value
  owner := ownerPart value
  repository := repositoryOf (lastPart value)
  revision := revisionOf (lastPart value)

/-! ### The checks, in order -/

/-- The checks of the text as a whole. -/
def shapeChecks (value : String) : List Grammar.Check :=
  [⟨value.isEmpty, .emptyCoordinate⟩, ⟨(parts value).length != 3, .coordinateShape value⟩]

/-- The checks of the revision of a last part. -/
def revisionChecks (value last : String) : List Grammar.Check :=
  [⟨revisionOf last == some "", .emptyRevision value⟩,
    ⟨(revisionOf last).any fun revision => decide (':' ∈ revision.toList), .badRevision value⟩]

/-- The checks of the remote, the owner and the repository. -/
def partChecks (value remote owner repository : String) : List Grammar.Check :=
  [⟨!decide (ValidRemote remote), .badRemote remote value⟩,
    ⟨!decide (ValidName owner), .badOwner owner value⟩,
    ⟨!decide (ValidName repository), .badRepository repository value⟩]

/-- Every check of a coordinate text, in the order parsing makes them. -/
def checks (value : String) : List Grammar.Check :=
  shapeChecks value ++ (revisionChecks value (lastPart value) ++
    partChecks value (remotePart value) (ownerPart value) (repositoryOf (lastPart value)))

/-- The grammar of module coordinates. -/
structure WellFormed (value : String) : Prop where
  three : (parts value).length = 3
  revision : ∀ revision ∈ revisionOf (lastPart value), revision ≠ "" ∧ ':' ∉ revision.toList
  remote : ValidRemote (remotePart value)
  owner : ValidName (ownerPart value)
  repository : ValidName (repositoryOf (lastPart value))

/-! ### Parsing makes the checks -/

/-- The revision is cut off a last part that holds no slash, so the slash test of the
revision never fails. -/
theorem splitRevision_eq {value last : String} (slashFree : '/' ∉ last.toList) :
    splitRevision value last =
      Grammar.verdict (revisionChecks value last) (repositoryOf last, revisionOf last) := by
  unfold splitRevision
  cases cut : Text.cutFirst ':' last with
  | none => simp [revisionChecks, repositoryOf, revisionOf, cut]
  | some found =>
      obtain ⟨repository, revision⟩ := found
      have inside : '/' ∉ revision.toList := fun member =>
        slashFree (by rw [(Text.cutFirst_eq_some cut).1]; simp [member])
      by_cases empty : revision = ""
      · simp [revisionChecks, revisionOf, cut, empty]
      · simp [revisionChecks, revisionOf, repositoryOf, cut, empty, String.contains_char_eq,
          inside]

theorem decide_validRemote : decide (ValidRemote s) = isRemote s := by
  rw [Bool.eq_iff_iff, decide_eq_true_iff, isRemote_iff]

theorem decide_validName : decide (ValidName s) = isPart s := by
  rw [Bool.eq_iff_iff, decide_eq_true_iff, isPart_iff]

theorem partChecks_verdict (value remote owner repository : String) (revision : Option String) :
    (do
      unless isRemote remote do throw (Error.badRemote remote value)
      unless isPart owner do throw (Error.badOwner owner value)
      unless isPart repository do throw (Error.badRepository repository value)
      pure { remote, owner, repository, revision } : Except Error Coordinate) =
      Grammar.verdict (partChecks value remote owner repository)
        ⟨remote, owner, repository, revision⟩ := by
  simp only [partChecks, decide_validRemote, decide_validName, Grammar.verdict_cons,
    Grammar.verdict_nil]
  cases isRemote remote <;> cases isPart owner <;> cases isPart repository <;> rfl

theorem parse_eq (value : String) : parse value = Grammar.verdict (checks value) (reading value) := by
  unfold parse
  by_cases empty : value.isEmpty = true
  · simp [empty, checks, shapeChecks]
  rw [if_neg empty]
  split
  · rename_i remote owner last shape
    have slashFree : '/' ∉ last.toList := (Text.mem_pieces (by rw [shape]; simp)).1
    have shaped : Grammar.firstRefusal (shapeChecks value) = none := by
      simp [shapeChecks, empty, parts, shape]
    have remoteIs : remotePart value = remote := by simp [remotePart, parts, shape]
    have ownerIs : ownerPart value = owner := by simp [ownerPart, parts, shape]
    have lastIs : lastPart value = last := by simp [lastPart, parts, shape]
    rw [splitRevision_eq slashFree, checks, Grammar.verdict_append, shaped,
      Grammar.verdict_append, reading]
    simp only [remoteIs, ownerIs, lastIs, Except.throw_eq]
    cases refused : Grammar.firstRefusal (revisionChecks value last) with
    | some error => rw [Grammar.verdict_of_refused refused, Except.error_bind]
    | none =>
        rw [Grammar.verdict_of_passed refused, Except.ok_bind]
        exact partChecks_verdict value remote owner (repositoryOf last) (revisionOf last)
  · rename_i notThree
    have shapeless : (parts value).length ≠ 3 := by
      intro three
      obtain ⟨remote, owner, last, shape⟩ := List.length_eq_three.mp three
      exact notThree remote owner last shape
    simp [checks, shapeChecks, empty, shapeless]

/-! ### The checks pass exactly on the grammar -/

variable {value : String}

theorem shapeChecks_pass :
    (∀ check ∈ shapeChecks value, check.fails = false) ↔ (parts value).length = 3 := by
  -- the empty text is one empty part, so three parts rule it out
  have nonempty : (parts value).length = 3 → value.isEmpty = false := by
    intro three
    cases empty : value.isEmpty
    · rfl
    · rw [String.isEmpty_iff.mp empty] at three
      cases three
  simp only [shapeChecks, List.forall_mem_cons, List.not_mem_nil, IsEmpty.forall_iff,
    implies_true, and_true, bne_eq_false_iff_eq]
  exact ⟨And.right, fun three => ⟨nonempty three, three⟩⟩

theorem revisionChecks_pass (last : String) :
    (∀ check ∈ revisionChecks value last, check.fails = false) ↔
      ∀ revision ∈ revisionOf last, revision ≠ "" ∧ ':' ∉ revision.toList := by
  cases cut : revisionOf last with
  | none => simp [revisionChecks, cut]
  | some revision => simp [revisionChecks, cut]

theorem partChecks_pass (remote owner repository : String) :
    (∀ check ∈ partChecks value remote owner repository, check.fails = false) ↔
      ValidRemote remote ∧ ValidName owner ∧ ValidName repository := by
  simp [partChecks]

theorem checks_pass_iff : Grammar.firstRefusal (checks value) = none ↔ WellFormed value := by
  rw [Grammar.firstRefusal_eq_none, checks]
  simp only [List.forall_mem_append, shapeChecks_pass, revisionChecks_pass, partChecks_pass]
  constructor
  · rintro ⟨three, revision, remote, owner, repository⟩
    exact ⟨three, revision, remote, owner, repository⟩
  · rintro ⟨three, revision, remote, owner, repository⟩
    exact ⟨three, revision, remote, owner, repository⟩

/-- A well-formed text is what its coordinate writes. -/
theorem render_reading (formed : WellFormed value) : render (reading value) = value := by
  obtain ⟨remote, owner, last, shape⟩ := List.length_eq_three.mp formed.three
  have whole : remote ++ "/" ++ owner ++ "/" ++ last = value := by
    have joined := Text.joinWith_pieces '/' value
    rw [← parts, shape] at joined
    simpa [Text.joinWith] using joined
  have lastIs : lastPart value = last := by simp [lastPart, shape]
  have revised := formed.revision
  rw [lastIs] at revised
  simp only [render, reading, lastIs, repositoryOf, revisionOf]
  rw [show remotePart value = remote by simp [remotePart, shape],
    show ownerPart value = owner by simp [ownerPart, shape]]
  cases cut : Text.cutFirst ':' last with
  | none => exact whole
  | some found =>
      obtain ⟨repository, revision⟩ := found
      have nonempty := (revised revision (by simp [revisionOf, cut])).1
      obtain ⟨cutLast, -⟩ := Text.cutFirst_eq_some cut
      rw [← whole]
      simp only [Option.map_some, String.isEmpty_iff, nonempty, if_false]
      apply String.toList_injective
      simp [cutLast]

theorem parse_eq_ok {coordinate : Coordinate} :
    parse value = .ok coordinate ↔ WellFormed value ∧ coordinate = reading value := by
  rw [parse_eq]
  cases refused : Grammar.firstRefusal (checks value) with
  | some error =>
      have malformed : ¬ WellFormed value := fun formed => by
        rw [checks_pass_iff.mpr formed] at refused
        cases refused
      rw [Grammar.verdict_of_refused refused]
      exact iff_of_false nofun fun read => malformed read.1
  | none =>
      rw [Grammar.verdict_of_passed refused, Except.ok.injEq, eq_comm]
      exact ⟨fun read => ⟨checks_pass_iff.mp refused, read⟩, And.right⟩

theorem parse_eq_error {error : Error} :
    parse value = .error error ↔ Grammar.firstRefusal (checks value) = some error := by
  rw [parse_eq]
  cases refused : Grammar.firstRefusal (checks value) with
  | some first =>
      rw [Grammar.verdict_of_refused refused, Except.error.injEq, Option.some.injEq]
  | none => simp [Grammar.verdict_of_passed refused]

/-- Parsing reads a text as a coordinate exactly when it is in the coordinate language,
refuses it at the first check it fails otherwise, and what it reads writes back as the
text, so reading that again gives the same coordinate. -/
theorem parse_follows_grammar (value : String) :
    (∀ coordinate, parse value = .ok coordinate ↔
      WellFormed value ∧ coordinate = reading value) ∧
    (∀ error, parse value = .error error ↔ Grammar.firstRefusal (checks value) = some error) ∧
    (∀ coordinate, parse value = .ok coordinate →
      render coordinate = value ∧ parse (render coordinate) = .ok coordinate) := by
  refine ⟨fun _ => parse_eq_ok, fun _ => parse_eq_error, fun coordinate read => ?_⟩
  obtain ⟨formed, rfl⟩ := parse_eq_ok.mp read
  have written := render_reading formed
  exact ⟨written, by rw [written, read]⟩

/- The end anchor admits one final line feed in each part, the revision is cut at the first
colon of the last part only, and the remote may carry a port. -/
example : Grammar.firstRefusal (checks "localhost:8080\n/acme\n/weather\n:v1") = none := by
  decide +kernel

/- A second colon in the revision is refused before the remote is looked at. -/
example : Grammar.firstRefusal (checks "-bad/acme/weather:v1:2") =
    some (.badRevision "-bad/acme/weather:v1:2") := by
  decide +kernel

end Locator.Coordinate
