import Locator.Reference
import Locator.Proofs.Checking

namespace Locator

/-! # Building resources and mapping them to references

`Resource.build` reads the options a checked reference kept, one builder per kind of
format. Given a registered format and switches that hold `true` or `false`, as reading a
reference guarantees, every refusal of a builder is a malformed value, path or coordinate
and never a switch (`build_error`), and what it builds has the format's kind and name.
`Reference.ofResource` then refuses only a resource of a family the caller does not ask
for, and for any reference it maps every resource to its own family
(`ofResource_eq_ok`).
-/

variable {spec : Spec} {format : Format} {resource : Resource} {error : Error}

/-- A refusal of what a reference holds once its options have been read: a malformed
value, path or coordinate, never a switch, which reading has already checked. -/
def Error.BadContent (error : Error) : Prop :=
  error.category = .malformed ∧ ∀ key text, error ≠ .notSwitch key text

/-- Switch options hold `true` or `false`. -/
def SwitchesRead (options : List (OptionKey × String)) : Prop :=
  ∀ entry ∈ options, entry.1.isSwitch = true → entry.2 = "true" ∨ entry.2 = "false"

/-! ### The readers of option values -/

theorem readCount_error {key : OptionKey} {value : String}
    (failed : readCount key value = .error error) : error.BadContent := by
  unfold readCount at failed
  split at failed
  · cases failed
    exact ⟨rfl, by simp⟩
  · split at failed <;> cases failed
    exact ⟨rfl, by simp⟩

theorem readSubdir_error {given : Option String} (failed : readSubdir given = .error error) :
    error.BadContent := by
  unfold readSubdir at failed
  split at failed
  · cases failed
  · dsimp only at failed
    repeat' split at failed
    all_goals cases failed
    all_goals exact ⟨rfl, by simp⟩

theorem readDepth_error {given : Option String} {hasRef : Bool}
    (failed : readDepth given hasRef = .error error) : error.BadContent := by
  unfold readDepth at failed
  split at failed
  · cases failed
  · rename_i text
    cases counted : readCount .depth text with
    | error refusal =>
        simp only [counted, Except.error_bind, Except.error.injEq] at failed
        exact failed ▸ readCount_error counted
    | ok depth =>
        simp only [counted, Except.ok_bind] at failed
        split at failed <;> cases failed
        exact ⟨rfl, by simp⟩

theorem readSwitch_of_read (key : OptionKey) {value : String}
    (read : value = "true" ∨ value = "false") : readSwitch key value = .ok (value == "true") := by
  rcases read with rfl | rfl <;> rfl

/-- A switch option, read with its default, is `true` or `false`. -/
theorem option?_switch (switches : SwitchesRead spec.options) (key : OptionKey)
    (switch : key.isSwitch = true) :
    (spec.option? key).getD "false" = "true" ∨ (spec.option? key).getD "false" = "false" := by
  unfold Spec.option?
  cases found : spec.options.find? (fun entry => entry.1 == key) with
  | none => simp
  | some entry =>
      have member := List.mem_of_find?_eq_some found
      have same : entry.1 = key := by simpa using List.find?_some found
      simpa using switches entry member (same ▸ switch)

theorem rejectStream_error {path : String} (failed : rejectStream path format = .error error) :
    error.BadContent := by
  unfold rejectStream at failed
  split at failed <;> cases failed
  exact ⟨rfl, by simp⟩

theorem readRepository_error {clone : Format} (switches : SwitchesRead spec.options)
    (failed : readRepository spec clone = .error error) : error.BadContent := by
  have recurse := readSwitch_of_read .recurseSubmodules
    (option?_switch switches .recurseSubmodules rfl)
  unfold readRepository at failed
  dsimp only at failed
  -- the two guards refuse with errors of their own; then the depth, the submodule switch,
  -- which reading has checked, and the subdirectory
  split at failed
  · simp at failed
    subst failed
    exact ⟨rfl, by simp⟩
  split at failed
  · simp at failed
    subst failed
    exact ⟨rfl, by simp⟩
  rcases Except.bind_eq_error failed with depthFailed | ⟨depth, -, rest⟩
  · exact readDepth_error depthFailed
  rcases Except.bind_eq_error rest with switchFailed | ⟨recursive, -, rest⟩
  · rw [recurse] at switchFailed
    cases switchFailed
  rcases Except.bind_eq_error rest with subdirFailed | ⟨subdir, -, rest⟩
  · exact readSubdir_error subdirFailed
  cases rest

theorem readArchive_error (typed : format.archiveType.isSome = true)
    (failed : readArchive spec format = .error error) : error.BadContent := by
  unfold readArchive at failed
  cases type : format.archiveType with
  | none => simp [type] at typed
  | some archiveType =>
      simp only [type] at failed
      rcases Except.bind_eq_error failed with subdirFailed | ⟨subdir, -, rest⟩
      · exact readSubdir_error subdirFailed
      rcases Except.bind_eq_error rest with countFailed | ⟨strip, -, rest⟩
      · exact readCount_error countFailed
      cases rest

theorem Coordinate.splitRevision_error {value last : String}
    (failed : Coordinate.splitRevision value last = .error error) : error.BadContent := by
  unfold Coordinate.splitRevision at failed
  repeat' split at failed
  all_goals cases failed
  all_goals exact ⟨rfl, by simp⟩

theorem Coordinate.parse_error {value : String} (failed : Coordinate.parse value = .error error) :
    error.BadContent := by
  unfold Coordinate.parse at failed
  by_cases empty : value = ""
  · simp [empty] at failed
    subst failed
    exact ⟨rfl, by simp⟩
  simp [empty] at failed
  split at failed
  · -- three parts: the revision, then the remote, the owner and the repository
    rcases Except.bind_eq_error failed with revisionFailed | ⟨parts, -, rest⟩
    · exact Coordinate.splitRevision_error revisionFailed
    repeat' split at rest
    all_goals cases rest
    all_goals exact ⟨rfl, by simp⟩
  · cases failed
    exact ⟨rfl, by simp⟩

/-! ### Builders -/

/-- The compression a resource carries: single messages and archives have one. -/
def Resource.compression? : Resource → Option Compression
  | .single file => some file.compression
  | .tree (.archive packed) => some packed.compression
  | _ => none

/-- The archive type of a resource, for an archive. -/
def Resource.archiveType? : Resource → Option ArchiveType
  | .tree (.archive packed) => some packed.archiveType
  | _ => none

theorem readArchive_ok {packed : Archive} (read : readArchive spec format = .ok packed) :
    packed.format = format.name ∧ format.archiveType = some packed.archiveType ∧
      packed.compression = spec.compression.getD .plain := by
  unfold readArchive at read
  cases type : format.archiveType with
  | none => simp [type] at read
  | some archiveType =>
      simp only [type] at read
      obtain ⟨subdir, -, rest⟩ := Except.bind_eq_ok read
      obtain ⟨strip, -, rest⟩ := Except.bind_eq_ok rest
      cases rest
      exact ⟨rfl, rfl, rfl⟩

theorem readRepository_ok {clone : Format} {repository : Repository}
    (read : readRepository spec clone = .ok repository) :
    repository.format = clone.name ∧ repository.path = spec.path := by
  unfold readRepository at read
  dsimp only at read
  split at read
  · simp at read
  split at read
  · simp at read
  obtain ⟨depth, -, rest⟩ := Except.bind_eq_ok read
  obtain ⟨recursive, -, rest⟩ := Except.bind_eq_ok rest
  obtain ⟨subdir, -, rest⟩ := Except.bind_eq_ok rest
  cases rest
  exact ⟨rfl, rfl⟩

/-- A built resource has the kind and the name of its format; its compression is the one
the reference settled on, and an archive has its format's archive type. -/
theorem build_ok (built : Resource.build spec format = .ok resource) :
    resource.kind = format.kind ∧ resource.format = format.name ∧
      (∀ compression, resource.compression? = some compression →
        compression = spec.compression.getD .plain) ∧
      (format.kind = .archive → resource.archiveType? = format.archiveType) := by
  unfold Resource.build at built
  cases kind : format.kind <;> simp only [kind] at built
  case single =>
      cases built
      simp [Resource.kind, Resource.format, Resource.compression?]
  case archive =>
      obtain ⟨packed, read, rest⟩ := Except.bind_eq_ok built
      cases rest
      obtain ⟨named, typed, compressed⟩ := readArchive_ok read
      simp [Resource.kind, Tree.kind, Resource.format, Tree.format, Resource.compression?,
        Resource.archiveType?, named, typed, compressed]
  case git =>
      obtain ⟨-, -, rest⟩ := Except.bind_eq_ok built
      obtain ⟨repository, read, rest⟩ := Except.bind_eq_ok rest
      cases rest
      simp [Resource.kind, Tree.kind, Resource.format, Tree.format, Resource.compression?,
        (readRepository_ok read).1]
  case directory =>
      obtain ⟨-, -, rest⟩ := Except.bind_eq_ok built
      cases rest
      simp [Resource.kind, Tree.kind, Resource.format, Tree.format, Resource.compression?]
  case module =>
      obtain ⟨coordinate, -, rest⟩ := Except.bind_eq_ok built
      cases rest
      simp [Resource.kind, Resource.format, Resource.compression?]
  case protoFile =>
      obtain ⟨-, -, rest⟩ := Except.bind_eq_ok built
      obtain ⟨withPackage, -, rest⟩ := Except.bind_eq_ok rest
      cases rest
      simp [Resource.kind, Resource.format, Resource.compression?]

/-- A registered format that is no archive builds a resource without an archive type, so
every built resource has its format's archive type. -/
theorem build_archiveType (listed : format ∈ Format.registry)
    (built : Resource.build spec format = .ok resource) :
    resource.archiveType? = format.archiveType := by
  obtain ⟨kind, -, -, archived⟩ := build_ok built
  by_cases archive : format.kind = .archive
  · exact archived archive
  · rw [Format.archiveType_of_not_archive listed archive]
    rcases resource with file | (packed | folder | clone) | named | file
    case archive => exact absurd kind.symm archive
    all_goals rfl

/-- A message file built for a format that fits the reference holds every option, each a
custom option of the format. -/
theorem build_customOptions {file : SingleFile} (fits : spec.Fits format)
    (built : Resource.build spec format = .ok (.single file)) :
    file.customOptions = spec.options.map (fun entry => (entry.1.name, entry.2)) ∧
      ∀ entry ∈ spec.options, entry.1 ∈ format.customKeys := by
  have single : format.kind = .single := (build_ok built).1.symm
  -- a single-message format takes options of its own only as custom ones
  have custom : ∀ entry ∈ spec.options, entry.1 ∈ format.customKeys := by
    intro entry member
    simpa [Format.accepts, Format.optionKeys_of_single fits.mem_registry single] using
      fits.options entry member
  simp only [Resource.build, single, Except.pure_eq, Except.ok.injEq, Resource.single.injEq] at built
  subst built
  refine ⟨?_, custom⟩
  rw [List.filter_eq_self.mpr (by simpa [List.contains_iff_mem] using custom)]

/-- A registered format builds, from options whose switches hold `true` or `false`, or
refuses with a malformed value, path or coordinate. -/
theorem build_error (listed : format ∈ Format.registry) (switches : SwitchesRead spec.options)
    (failed : Resource.build spec format = .error error) : error.BadContent := by
  unfold Resource.build at failed
  cases kind : format.kind <;> simp only [kind] at failed
  case single => cases failed
  case archive =>
      obtain ⟨type, typed⟩ := Format.archiveType_of_archive listed kind
      rcases Except.bind_eq_error failed with archiveFailed | ⟨packed, -, rest⟩
      · exact readArchive_error (by simp [typed]) archiveFailed
      · cases rest
  case git =>
      rcases Except.bind_eq_error failed with streamFailed | ⟨-, -, rest⟩
      · exact rejectStream_error streamFailed
      rcases Except.bind_eq_error rest with repositoryFailed | ⟨repository, -, rest⟩
      · exact readRepository_error switches repositoryFailed
      · cases rest
  case directory =>
      rcases Except.bind_eq_error failed with streamFailed | ⟨-, -, rest⟩
      · exact rejectStream_error streamFailed
      · cases rest
  case module =>
      rcases Except.bind_eq_error failed with coordinateFailed | ⟨coordinate, -, rest⟩
      · exact Coordinate.parse_error coordinateFailed
      · cases rest
  case protoFile =>
      have withPackage := readSwitch_of_read .includePackageFiles
        (option?_switch switches .includePackageFiles rfl)
      rcases Except.bind_eq_error failed with streamFailed | ⟨-, -, rest⟩
      · exact rejectStream_error streamFailed
      rcases Except.bind_eq_error rest with switchFailed | ⟨included, -, rest⟩
      · rw [withPackage] at switchFailed
        cases switchFailed
      · cases rest

/-! ### Mapping resources to references -/

/-- What mapping a single message file to a reference needs of it: a message format, and
custom options that hold `true` or `false`. -/
structure SingleFile.Mappable (file : SingleFile) : Prop where
  encoded : (Format.encoding? file.format).isSome = true
  switches : ∀ entry ∈ file.customOptions, entry.2 = "true" ∨ entry.2 = "false"

/-- The value given for a custom option of a message file. -/
def SingleFile.option? (file : SingleFile) (key : OptionKey) : Option String :=
  (file.customOptions.find? fun entry => entry.1 == key.name).map Prod.snd

theorem SingleFile.switch_eq {file : SingleFile} (mappable : file.Mappable) (key : OptionKey) :
    file.switch key = .ok (file.option? key == some "true") := by
  unfold SingleFile.switch
  cases found : file.customOptions.find? (fun entry => entry.1 == key.name) with
  | none => simp [SingleFile.option?, found, readSwitch]
  | some entry =>
      have read := mappable.switches entry (List.mem_of_find?_eq_some found)
      rw [Option.map_some, Option.getD_some, readSwitch_of_read key read]
      rcases read with value | value <;> simp [SingleFile.option?, found, value]

theorem SingleFile.option?_eq {file : SingleFile} {options : List (OptionKey × String)}
    (written : file.customOptions = options.map fun entry => (entry.1.name, entry.2))
    (key : OptionKey) :
    file.option? key = (options.find? fun entry => entry.1 == key).map Prod.snd := by
  unfold SingleFile.option?
  rw [written, List.find?_map, Option.map_map]
  -- names of option keys are distinct, so looking a name up finds its key
  have same : ((fun entry : String × String => entry.1 == key.name) ∘
      fun entry : OptionKey × String => (entry.1.name, entry.2)) = fun entry => entry.1 == key := by
    funext entry
    rw [Function.comp_apply, Bool.eq_iff_iff, beq_iff_eq, beq_iff_eq]
    exact OptionKey.name_injective.eq_iff
  rw [same]
  rfl

theorem MessageRef.ofFile_eq_ok {file : SingleFile} {read : MessageRef} (mappable : file.Mappable) :
    MessageRef.ofFile file = .ok read ↔
      read.file = file ∧ Format.encoding? file.format = some read.encoding ∧
        read.useProtoNames = (file.option? .useProtoNames == some "true") ∧
        read.useEnumNumbers = (file.option? .useEnumNumbers == some "true") := by
  obtain ⟨encoding, encoded⟩ := Option.isSome_iff_exists.mp mappable.encoded
  have named : encodingOf file.format = .ok encoding := by simp [encodingOf, encoded]
  obtain ⟨mapped, encoding', proto, enum⟩ := read
  simp only [MessageRef.ofFile, named, SingleFile.switch_eq mappable, Except.ok_bind,
    Except.pure_eq, Except.ok.injEq, encoded, Option.some.injEq, MessageRef.mk.injEq]
  constructor
  · rintro ⟨rfl, rfl, rfl, rfl⟩
    exact ⟨rfl, rfl, rfl, rfl⟩
  · rintro ⟨rfl, rfl, rfl, rfl⟩
    exact ⟨rfl, rfl, rfl, rfl⟩

/-- Mapping to a demanded family succeeds exactly when the resource is of a kind the demand
admits, and then gives what mapping for any reference gives; the allowed formats only
enter a refusal's report. -/
theorem ofResource_eq_ok {demand : Demand} {allowed : List String} (other : List String)
    {reference : Reference} :
    Reference.ofResource demand allowed resource = .ok reference ↔
      Reference.ofResource .any other resource = .ok reference ∧
        demand.admits resource.kind = true := by
  cases demand <;> rcases resource with file | (packed | folder | clone) | named | file <;>
    simp [Reference.ofResource, Demand.admits, Resource.kind, Tree.kind, Kind.isTree]

theorem MessageRef.ofFile_file {file : SingleFile} {read : MessageRef}
    (made : MessageRef.ofFile file = .ok read) : read.file = file := by
  unfold MessageRef.ofFile at made
  obtain ⟨encoding, -, rest⟩ := Except.bind_eq_ok made
  obtain ⟨proto, -, rest⟩ := Except.bind_eq_ok rest
  obtain ⟨enum, -, rest⟩ := Except.bind_eq_ok rest
  cases rest
  rfl

theorem MessageRef.ofFile_ok {file : SingleFile} (mappable : file.Mappable) :
    ∃ read, MessageRef.ofFile file = .ok read := by
  obtain ⟨encoding, encoded⟩ := Option.isSome_iff_exists.mp mappable.encoded
  exact ⟨⟨file, encoding, _, _⟩, (MessageRef.ofFile_eq_ok mappable).mpr ⟨rfl, encoded, rfl, rfl⟩⟩

/-- A message file built for a registered format, from options whose switches hold `true`
or `false`, can be mapped to a message reference. -/
theorem build_mappable {file : SingleFile} (listed : format ∈ Format.registry)
    (switches : SwitchesRead spec.options)
    (built : Resource.build spec format = .ok (.single file)) : file.Mappable := by
  have single : format.kind = .single := (build_ok built).1.symm
  simp only [Resource.build, single, Except.pure_eq, Except.ok.injEq, Resource.single.injEq] at built
  subst built
  obtain ⟨encoding, encoded⟩ := Format.encoding_of_single listed single
  refine ⟨by simp [encoded], ?_⟩
  -- a custom option is a switch of the format, written as it was read
  intro entry member
  simp only [List.mem_map, List.mem_filter, List.contains_iff_mem] at member
  obtain ⟨⟨key, text⟩, ⟨given, custom⟩, rfl⟩ := member
  exact switches (key, text) given (Format.customKeys_switch listed key custom)

theorem ofResource_resource {demand : Demand} {allowed : List String} {reference : Reference}
    (mapped : Reference.ofResource demand allowed resource = .ok reference) :
    reference.resource = resource := by
  obtain ⟨generic, -⟩ := (ofResource_eq_ok allowed).mp mapped
  rcases resource with file | (packed | folder | clone) | named | file
  case single =>
      cases made : MessageRef.ofFile file with
      | error refusal => simp [Reference.ofResource, made] at generic
      | ok read =>
          simp only [Reference.ofResource, made, Except.map_ok, Except.ok.injEq] at generic
          subst generic
          simp [Reference.resource, MessageRef.ofFile_file made]
  all_goals
    simp only [Reference.ofResource, Except.pure_eq, Except.ok.injEq] at generic
    subst generic
    rfl

theorem ofResource_message {demand : Demand} {allowed : List String} {file : SingleFile}
    {read : MessageRef} (mapped : Reference.ofResource demand allowed (.single file) = .ok (.message read)) :
    MessageRef.ofFile file = .ok read := by
  have generic := ((ofResource_eq_ok allowed).mp mapped).1
  cases made : MessageRef.ofFile file with
  | error refusal => simp [Reference.ofResource, made] at generic
  | ok found =>
      simp only [Reference.ofResource, made, Except.map_ok, Except.ok.injEq,
        Reference.message.injEq] at generic
      rw [generic]

/-- Mapping refuses only a resource of a kind the demand does not admit, reporting its kind
and format, the demand and the allowed formats. -/
theorem ofResource_error {demand : Demand} {allowed : List String}
    (mappable : ∀ file, resource = .single file → file.Mappable)
    (failed : Reference.ofResource demand allowed resource = .error error) :
    error = .kindMismatch resource.kind resource.format demand allowed := by
  rcases resource with file | (packed | folder | clone) | named | file
  case single =>
      obtain ⟨read, made⟩ := MessageRef.ofFile_ok (mappable file rfl)
      cases demand <;> simp [Reference.ofResource, made] at failed ⊢ <;> exact failed.symm
  all_goals cases demand <;> simp [Reference.ofResource] at failed ⊢ <;> exact failed.symm

end Locator
