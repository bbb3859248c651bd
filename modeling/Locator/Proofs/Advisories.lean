import Locator.Proofs.Resolution

namespace Locator

/-! # Advisories for deprecated format names

Resolution takes debug notes while it infers and checks a reference, and one warning: the
advisory of a deprecated format name (`bingz`, `jsongz`, `targz`), taken once the resource
is built. So the warnings of a resolution are exactly what its outcome owes
(`owedWarnings`): the advisory of the resolved resource's format when that name is
deprecated, and nothing when the text is refused. This holds of a typed reference too,
although its advisory is taken before the resource is mapped to the family demanded,
because that mapping never refuses a resource resolved for the demand
(`reference_of_resource`). Checking a reference takes no warning at all. No inference of
the five resolvers produces a deprecated name, so a warning is only ever taken for a
format written with `format=`.
-/

namespace Logged

variable {α β : Type} {run : Logged α}

/-- A run is quiet when it takes no warning. -/
def Quiet (run : Logged α) : Prop :=
  warnings run.notes = []

theorem Quiet.warnings_eq (quiet : run.Quiet) : warnings run.notes = [] :=
  quiet

theorem Quiet.bind {first : Logged α} {next : α → Logged β} (quiet : first.Quiet)
    (rest : ∀ value, (next value).Quiet) : (first >>= next).Quiet := by
  unfold Quiet
  rw [bind_notes, warnings_append, quiet.warnings_eq, List.nil_append]
  split
  · exact rest _
  · rfl

theorem Quiet.map {change : α → β} (quiet : run.Quiet) : (change <$> run).Quiet :=
  quiet.bind fun _ => rfl

@[simp] theorem quiet_pure (value : α) : (pure value : Logged α).Quiet := rfl

@[simp] theorem quiet_lift (result : Except Error α) : (lift result).Quiet := rfl

@[simp] theorem quiet_throw (error : Error) : (throw error : Logged α).Quiet := rfl

@[simp] theorem quiet_debug (text : String) : (note .debug text).Quiet := rfl

@[simp] theorem quiet_silent (result : Except Error α) : (⟨[], result⟩ : Logged α).Quiet := rfl

end Logged

/-- The warnings a resolution owes its outcome: the advisory of the resolved resource's
format when that name is deprecated, and none for a refusal. -/
def owedWarnings : Except Error Resource → List String
  | .ok resource => (Format.advisory? resource.format).toList
  | .error _ => []

/-! ### Inference and checking take no warning -/

namespace Inference

variable {settings : Inference} {host : Host} {path : String}

theorem assumeModuleOrDirectory_quiet : (assumeModuleOrDirectory host path).Quiet := by
  unfold assumeModuleOrDirectory
  by_cases empty : path.isEmpty
  · simp [empty]
  · by_cases coordinate : Coordinate.isCoordinate path
    · by_cases directory : host.isDirectory path
      · simp only [empty, coordinate, directory, Bool.false_eq_true, if_false, if_true,
          Bool.not_true]
        exact (Logged.quiet_debug _).bind fun _ => Logged.quiet_pure _
      · simp [empty, coordinate, directory]
    · simp [empty, coordinate]

theorem fallbackFormat_quiet : (settings.fallbackFormat host path).Quiet := by
  unfold fallbackFormat
  split
  · exact assumeModuleOrDirectory_quiet
  · split <;> simp
  · simp

theorem byExtension_quiet : (settings.byExtension host path).Quiet := by
  unfold byExtension
  cases compressed : extensionCompression? (Path.extension path) with
  | some compression =>
      cases inner : settings.lookup (innerExtension path (Path.extension path)) false <;>
        simp [compressed, inner]
  | none =>
      cases found : settings.lookup (Path.extension path) true with
      | some entry => simp [compressed, found]
      | none =>
          -- past the tables only the fallback can take a note
          by_cases proto : (Path.extension path == ".proto" && settings.acceptsProtoFile) = true
          · simp only [compressed, found, proto, if_true]
            exact (Logged.quiet_lift _).bind fun _ => Logged.quiet_pure _
          · simp only [compressed, found, proto, Bool.false_eq_true, if_false]
            exact fallbackFormat_quiet.bind fun _ => Logged.quiet_pure _

theorem guess_quiet : (settings.guess host path).Quiet := by
  unfold guess
  split
  · simp
  · split
    · split
      · simp
      · exact byExtension_quiet
    · exact byExtension_quiet

end Inference

theorem Spec.infer_quiet {spec : Spec} {settings : Inference} {host : Host} :
    (spec.infer settings host).Quiet :=
  Inference.guess_quiet.bind fun _ => (Logged.quiet_debug _).bind fun _ => Logged.quiet_pure _

namespace Resolver

variable {resolver : Resolver} {host : Host} {value : String} {allowed : List String}
  {notes : List Note}

theorem complete_quiet : (resolver.complete host value).Quiet := by
  refine (Logged.quiet_lift _).bind fun spec => ?_
  split
  · exact Spec.infer_quiet
  · exact Logged.quiet_pure _

theorem check_quiet (spec : Spec) : (check value allowed spec).Quiet := by
  unfold check
  split <;> simp [Logged.Quiet, resolvedNote]

theorem prepare_quiet : (resolver.prepare host value allowed).Quiet := by
  rw [prepare_eq]
  exact complete_quiet.bind check_quiet

/-! ### The warning of a built resource -/

theorem make_warnings (checked : Spec × Format) :
    Logged.warnings (make checked).notes = owedWarnings (make checked).result := by
  unfold make
  cases Resource.build checked.1 checked.2 with
  | error error => rfl
  | ok resource =>
      simp only [advisories, owedWarnings]
      cases Format.advisory? resource.format <;> rfl

theorem resource_warnings :
    Logged.warnings (resolver.resource host value allowed).notes =
      owedWarnings (resolver.resource host value allowed).result := by
  rw [resource_eq, Logged.bind_notes, Logged.bind_result, Logged.warnings_append,
    prepare_quiet.warnings_eq, List.nil_append]
  cases (resolver.prepare host value allowed).result with
  | error error => rfl
  | ok checked => exact make_warnings checked

/-- A resource resolved for a demand maps to a reference of that demand: mapping, which
comes after the advisory is taken, never refuses it. -/
theorem reference_of_resource {demand : Demand} {resource : Resource}
    (resolved : (resolver.resource host value demand.formats).result = .ok resource) :
    ∃ reference, Reference.ofResource demand demand.formats resource = .ok reference ∧
      reference.resource = resource := by
  have found : resolver.resource host value demand.formats =
      ⟨(resolver.resource host value demand.formats).notes, .ok resource⟩ := by
    rw [← resolved]
  obtain ⟨format, registered, named, kind, listed, -⟩ := resource_registered found
  -- the demand lists the format, so it admits the format's kind
  have admitted : demand.admits resource.kind = true := by
    rw [kind, ← Demand.mem_formats_iff demand registered]
    exact listed
  have mappable := resource_mappable resolved
  obtain ⟨reference, general⟩ :
      ∃ reference, Reference.ofResource .any demand.formats resource = .ok reference := by
    rcases resource with file | sources | module | file
    · obtain ⟨read, made⟩ := MessageRef.ofFile_ok (mappable file rfl)
      exact ⟨.message read, by simp [Reference.ofResource, made]⟩
    all_goals exact ⟨_, rfl⟩
  have mapped : Reference.ofResource demand demand.formats resource = .ok reference :=
    (ofResource_eq_ok demand.formats).mpr ⟨general, admitted⟩
  exact ⟨reference, mapped, ofResource_resource mapped⟩

theorem reference_warnings {demand : Demand} :
    Logged.warnings (resolver.reference host demand value).notes =
      owedWarnings (Reference.resource <$> (resolver.reference host demand value).result) := by
  have warned : Logged.warnings (resolver.resource host value demand.formats).notes =
      owedWarnings (resolver.resource host value demand.formats).result :=
    resource_warnings
  rw [reference_eq, Logged.bind_notes, Logged.bind_result, Logged.warnings_append]
  cases resolved : (resolver.resource host value demand.formats).result with
  | error error =>
      rw [warned, resolved]
      rfl
  | ok resource =>
      obtain ⟨reference, mapped, pointed⟩ := reference_of_resource resolved
      rw [warned, resolved]
      simp [mapped, pointed]

/-! ### Inference never gives a deprecated name -/

end Resolver

/-- No format that inference may produce is a deprecated name: the stream format, when the
settings have one, is not. -/
def Inference.Current (settings : Inference) : Prop :=
  ∀ format ∈ settings.streamDefault, Format.replacement? format = none

namespace Inference

variable {settings : Inference} {host : Host} {path format : String}
  {compression : Option Compression}

theorem lookup_current {extension : String} {bundled : Bool}
    (found : settings.lookup extension bundled = some (format, compression)) :
    Format.replacement? format = none := by
  unfold lookup at found
  cases entry : extensionFormat? extension with
  | none => simp [entry] at found
  | some listed =>
      obtain ⟨name, packed⟩ := listed
      have named : name = format := by
        simp only [entry] at found
        split at found
        · cases found
        · split at found
          · cases found
          · cases found
            rfl
      subst named
      clear found
      -- every format of the extension table is a current name
      unfold extensionFormat? at entry
      split at entry <;> simp only [Option.some.injEq, Prod.mk.injEq, reduceCtorEq] at entry <;>
        obtain ⟨rfl, -⟩ := entry <;> rfl

theorem assumeModuleOrDirectory_ok (chosen : (assumeModuleOrDirectory host path).result = .ok format) :
    format = "dir" ∨ format = "mod" := by
  unfold assumeModuleOrDirectory at chosen
  by_cases empty : path.isEmpty
  · simp [empty] at chosen
  · by_cases coordinate : Coordinate.isCoordinate path
    · by_cases directory : host.isDirectory path <;>
        simp [empty, coordinate, directory] at chosen <;> simp [chosen]
    · simp [empty, coordinate] at chosen
      simp [chosen]

theorem fallbackFormat_current (current : settings.Current)
    (chosen : (settings.fallbackFormat host path).result = .ok format) :
    Format.replacement? format = none := by
  unfold fallbackFormat at chosen
  split at chosen
  · rcases assumeModuleOrDirectory_ok chosen with rfl | rfl <;> rfl
  · split at chosen
    · rename_i stream given
      simp only [Logged.pure_result, Except.ok.injEq] at chosen
      split at chosen
      · subst chosen
        rfl
      · subst chosen
        exact current stream given
    · simp only [Logged.pure_result, Except.ok.injEq] at chosen
      subst chosen
      rfl
  · simp only [Logged.pure_result, Except.ok.injEq] at chosen
    subst chosen
    rfl

theorem byExtension_current (current : settings.Current)
    (guessed : (settings.byExtension host path).result = .ok (format, compression)) :
    Format.replacement? format = none := by
  unfold byExtension at guessed
  cases compressed : extensionCompression? (Path.extension path) with
  | some suffix =>
      cases inner : settings.lookup (innerExtension path (Path.extension path)) false with
      | some entry =>
          obtain ⟨name, packed⟩ := entry
          simp [compressed, inner] at guessed
          exact guessed.1 ▸ lookup_current inner
      | none => simp [compressed, inner] at guessed
  | none =>
      cases found : settings.lookup (Path.extension path) true with
      | some entry =>
          simp [compressed, found] at guessed
          exact lookup_current (guessed ▸ found)
      | none =>
          by_cases proto : (Path.extension path == ".proto" && settings.acceptsProtoFile) = true
          · cases checked : checkProtoFile host path <;>
              simp [compressed, found, proto, checked] at guessed
            rw [← guessed.1]
            rfl
          · simp only [compressed, found, proto, Bool.false_eq_true, if_false,
              Logged.bind_result, Logged.pure_result] at guessed
            obtain ⟨chosen, fell, rest⟩ := Except.bind_eq_ok guessed
            cases rest
            exact fallbackFormat_current current fell

/-- Inference with current settings never gives a deprecated format name. -/
theorem guess_current (current : settings.Current)
    (guessed : (settings.guess host path).result = .ok (format, compression)) :
    Format.replacement? format = none := by
  unfold guess at guessed
  split at guessed
  · simp only [Logged.pure_result, Except.ok.injEq, Prod.mk.injEq] at guessed
    rw [← guessed.1]
    rfl
  · split at guessed
    · rename_i stream given
      split at guessed
      · simp only [Logged.pure_result, Except.ok.injEq, Prod.mk.injEq] at guessed
        exact guessed.1 ▸ current stream given
      · exact byExtension_current current guessed
    · exact byExtension_current current guessed

end Inference

namespace Resolver

variable {resolver : Resolver} {host : Host} {value : String} {allowed : List String}

/-- The five resolvers infer no deprecated name. -/
theorem forDemand_current (encoding : Encoding) :
    ∀ demand, (forDemand encoding demand).inference.Current
  | .any => fun _ given => by
      cases given
      rfl
  | .message => fun _ given => by
      cases given
      cases encoding <;> rfl
  | .source | .module | .sourceOrModule => fun _ given => by cases given

/-- A completed reference whose format is deprecated names it in the text: inference did
not give it. -/
theorem complete_written (current : resolver.inference.Current) {spec : Spec} {name : String}
    (completed : (resolver.complete host value).result = .ok spec)
    (named : spec.format = some name) (deprecated : Format.replacement? name ≠ none) :
    ∃ written, Spec.split value = .ok written ∧ written.format = some name := by
  obtain ⟨read, split, kept | inferred⟩ := complete_eq_ok.mp completed
  · obtain ⟨-, rfl⟩ := kept
    exact ⟨spec, split, named⟩
  · obtain ⟨-, guessedFormat, compression, guessed, rfl⟩ := inferred
    cases named
    exact absurd (Inference.guess_current current guessed) deprecated

/-- A resolved resource of a deprecated format has that format written in the text. -/
theorem resource_written (current : resolver.inference.Current) {resource : Resource}
    (resolved : (resolver.resource host value allowed).result = .ok resource)
    (deprecated : Format.advisory? resource.format ≠ none) :
    ∃ written, Spec.split value = .ok written ∧ written.format = some resource.format := by
  rw [resource_result] at resolved
  obtain ⟨⟨checked, format⟩, prepared, built⟩ := Except.bind_eq_ok resolved
  obtain ⟨completed, done, -, fits, -⟩ := prepare_ok prepared
  have named : resource.format = format.name := (build_ok built).2.1
  rw [named] at deprecated ⊢
  refine complete_written current done fits.format_eq fun current => deprecated ?_
  simp [Format.advisory?, current]

end Resolver

/-- What the warnings of a resolution owe it: the advisory of the resolved resource's format
when that name is deprecated, nothing for a refusal, and a warning only for a format
written in the text. -/
def Advised (value : String) (notes : List Note) (outcome : Except Error Resource) : Prop :=
  Logged.warnings notes = owedWarnings outcome ∧
    (Logged.warnings notes ≠ [] → ∃ written resource, Spec.split value = .ok written ∧
      outcome = .ok resource ∧ written.format = some resource.format)

theorem Advised.of_written {value : String} {notes : List Note} {outcome : Except Error Resource}
    (warned : Logged.warnings notes = owedWarnings outcome)
    (written : ∀ resource, outcome = .ok resource → Format.advisory? resource.format ≠ none →
      ∃ read, Spec.split value = .ok read ∧ read.format = some resource.format) :
    Advised value notes outcome := by
  refine ⟨warned, fun warning => ?_⟩
  cases outcome with
  | error error => exact absurd warned warning
  | ok resource =>
      have deprecated : Format.advisory? resource.format ≠ none := by
        intro current
        apply warning
        rw [warned, owedWarnings, current]
        rfl
      obtain ⟨read, split, named⟩ := written resource rfl deprecated
      exact ⟨read, resource, split, rfl, named⟩

namespace Resolver

/-- Each of the five resolvers warns exactly once when it resolves a text to a resource of a
deprecated format, with that format's advisory, and never otherwise: not when it refuses the
text, at any entry point, not when it only checks a reference, and not for a format it
inferred, since inference never gives a deprecated name. -/
theorem advisories_only_on_success (encoding : Encoding) (factory : Demand) (host : Host)
    (value : String) :
    (∀ demand, Advised value ((forDemand encoding factory).reference host demand value).notes
      (Reference.resource <$> ((forDemand encoding factory).reference host demand value).result)) ∧
    (∀ allowed, Advised value ((forDemand encoding factory).resource host value allowed).notes
      ((forDemand encoding factory).resource host value allowed).result) ∧
    (∀ allowed, Logged.warnings ((forDemand encoding factory).spec host value allowed).notes = []) := by
  have current := forDemand_current encoding factory
  refine ⟨fun demand => Advised.of_written reference_warnings ?_,
    fun allowed => Advised.of_written resource_warnings
      fun _ resolved deprecated => resource_written current resolved deprecated,
    fun allowed => prepare_quiet.map⟩
  -- a reference points at the resource resolved for its demand
  intro resource mapped deprecated
  obtain ⟨reference, ran, rfl⟩ := Except.map_eq_ok mapped
  rw [reference_result] at ran
  obtain ⟨found, resolved, made⟩ := Except.bind_eq_ok ran
  rw [ofResource_resource made]
  exact resource_written current resolved (ofResource_resource made ▸ deprecated)

example : Logged.warnings (Resolver.generic.reference (Host.ofStatus fun _ => .missing) .any
    "x.bin#format=bingz").notes =
    ["Format \"bingz\" is deprecated. Use \"format=binpb,compression=gzip\" instead. " ++
      "This will continue to work forever, but updating is recommended."] := by
  rfl

end Resolver

end Locator
