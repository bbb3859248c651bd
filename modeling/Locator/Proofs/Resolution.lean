import Locator.Resolver
import Locator.Proofs.Inference
import Locator.Proofs.Building
import Locator.Proofs.Split

namespace Locator.Resolver

/-! # Resolution, stage by stage

A resolver first completes a text into a reference (`complete`: read it, and infer its
format when none is written), then checks it against the formats allowed and known, notes
its written form, builds the resource and adds the advisory of a deprecated format, and for
a typed reference maps the resource to the family demanded. The equations below give each
stage its own computation, so that later proofs peel resolution one stage at a time; only
the check reads the allowed formats, which is what makes the entry points of one resolver
differ only by the formats they accept.
-/

variable {resolver : Resolver} {host : Host} {value : String} {allowed : List String}
  {notes : List Note}

/-- The reference a text names: read, with its format inferred when none is written. -/
def complete (resolver : Resolver) (host : Host) (value : String) : Logged Spec := do
  let spec ← Logged.lift (Spec.split value)
  if spec.format.isNone then spec.infer resolver.inference host else pure spec

/-- The note that records the written form a text resolved to. -/
def resolvedNote (value : String) (checked : Spec) : Note :=
  ⟨.debug, s!"resolved {Text.quote value} to {checked.render}"⟩

/-- The notes taken once a resource is built: the advisory of a deprecated format. -/
def advisories (resource : Resource) : List Note :=
  ((Format.advisory? resource.format).map fun advisory => ⟨.warning, advisory⟩).toList

/-- Checking a completed reference against the allowed formats, noting its written form. -/
def check (value : String) (allowed : List String) (spec : Spec) : Logged (Spec × Format) :=
  match spec.validate allowed with
  | .ok checked => ⟨[resolvedNote value checked.1], .ok checked⟩
  | .error error => ⟨[], .error error⟩

/-- Building a checked reference, with the advisory of a deprecated format. -/
def make (checked : Spec × Format) : Logged Resource :=
  match Resource.build checked.1 checked.2 with
  | .ok resource => ⟨advisories resource, .ok resource⟩
  | .error error => ⟨[], .error error⟩

theorem prepare_eq :
    resolver.prepare host value allowed =
      resolver.complete host value >>= check value (allowed.filter resolver.known.contains) := by
  simp only [prepare, complete, bind_assoc]
  congr 1
  funext spec
  -- the check runs after inference, or on the reference as read
  by_cases inferred : spec.format.isNone = true
  · simp only [inferred, if_true]
    congr 1
    funext completed
    unfold check
    cases completed.validate (allowed.filter resolver.known.contains) <;> rfl
  · simp only [inferred, Bool.false_eq_true, if_false, pure_bind]
    unfold check
    cases spec.validate (allowed.filter resolver.known.contains) <;> rfl

theorem resource_eq :
    resolver.resource host value allowed = resolver.prepare host value allowed >>= make := by
  unfold resource
  congr 1
  funext checked
  obtain ⟨spec, format⟩ := checked
  unfold make
  dsimp only
  cases Resource.build spec format with
  | error error => rfl
  | ok built =>
      rw [Logged.bind_of_ok rfl]
      dsimp only
      unfold advisories
      cases Format.advisory? built.format <;> rfl

theorem reference_eq {demand : Demand} :
    resolver.reference host demand value =
      resolver.resource host value demand.formats >>=
        fun resource => Logged.lift (Reference.ofResource demand demand.formats resource) :=
  rfl

/-! ### What each stage gives -/

theorem check_result (spec : Spec) : (check value allowed spec).result = spec.validate allowed := by
  unfold check
  cases spec.validate allowed <;> rfl

theorem make_result (checked : Spec × Format) :
    (make checked).result = Resource.build checked.1 checked.2 := by
  unfold make
  cases Resource.build checked.1 checked.2 <;> rfl

theorem complete_result :
    (resolver.complete host value).result = Spec.split value >>= fun spec =>
      if spec.format.isNone then (spec.infer resolver.inference host).result else .ok spec := by
  unfold complete
  cases Spec.split value with
  | error error => rfl
  | ok spec =>
      simp only [Logged.bind_result, Logged.lift_result, Except.ok_bind]
      split <;> rfl

theorem prepare_result :
    (resolver.prepare host value allowed).result = (resolver.complete host value).result >>=
      fun spec => spec.validate (allowed.filter resolver.known.contains) := by
  simp [prepare_eq, check_result]

theorem resource_result :
    (resolver.resource host value allowed).result = (resolver.prepare host value allowed).result >>=
      fun checked => Resource.build checked.1 checked.2 := by
  simp [resource_eq, make_result]

theorem reference_result {demand : Demand} :
    (resolver.reference host demand value).result = (resolver.resource host value demand.formats).result >>=
      fun resource => Reference.ofResource demand demand.formats resource := by
  simp [reference_eq]

theorem check_eq_ok {spec : Spec} {checked : Spec × Format} :
    check value allowed spec = ⟨notes, .ok checked⟩ ↔
      spec.validate allowed = .ok checked ∧ notes = [resolvedNote value checked.1] := by
  unfold check
  cases spec.validate allowed with
  | error error => simp
  | ok found =>
      simp only [Logged.mk.injEq, Except.ok.injEq]
      constructor
      · rintro ⟨rfl, rfl⟩
        exact ⟨rfl, rfl⟩
      · rintro ⟨rfl, rfl⟩
        exact ⟨rfl, rfl⟩

theorem make_eq_ok {checked : Spec × Format} {resource : Resource} :
    make checked = ⟨notes, .ok resource⟩ ↔
      Resource.build checked.1 checked.2 = .ok resource ∧ notes = advisories resource := by
  unfold make
  cases Resource.build checked.1 checked.2 with
  | error error => simp
  | ok built =>
      simp only [Logged.mk.injEq, Except.ok.injEq]
      constructor
      · rintro ⟨rfl, rfl⟩
        exact ⟨rfl, rfl⟩
      · rintro ⟨rfl, rfl⟩
        exact ⟨rfl, rfl⟩

theorem prepare_eq_ok {checked : Spec × Format} :
    resolver.prepare host value allowed = ⟨notes, .ok checked⟩ ↔
      ∃ earlier spec, resolver.complete host value = ⟨earlier, .ok spec⟩ ∧
        spec.validate (allowed.filter resolver.known.contains) = .ok checked ∧
        notes = earlier ++ [resolvedNote value checked.1] := by
  rw [prepare_eq, Logged.bind_eq_ok_iff]
  simp only [check_eq_ok]
  constructor
  · rintro ⟨earlier, spec, later, completed, ⟨checks, rfl⟩, rfl⟩
    exact ⟨earlier, spec, completed, checks, rfl⟩
  · rintro ⟨earlier, spec, completed, checks, rfl⟩
    exact ⟨earlier, spec, _, completed, ⟨checks, rfl⟩, rfl⟩

theorem resource_eq_ok {resource : Resource} :
    resolver.resource host value allowed = ⟨notes, .ok resource⟩ ↔
      ∃ earlier checked, resolver.prepare host value allowed = ⟨earlier, .ok checked⟩ ∧
        Resource.build checked.1 checked.2 = .ok resource ∧ notes = earlier ++ advisories resource := by
  rw [resource_eq, Logged.bind_eq_ok_iff]
  simp only [make_eq_ok]
  constructor
  · rintro ⟨earlier, checked, later, prepared, ⟨built, rfl⟩, rfl⟩
    exact ⟨earlier, checked, prepared, built, rfl⟩
  · rintro ⟨earlier, checked, prepared, built, rfl⟩
    exact ⟨earlier, checked, _, prepared, ⟨built, rfl⟩, rfl⟩

theorem reference_eq_ok {demand : Demand} {reference : Reference} :
    resolver.reference host demand value = ⟨notes, .ok reference⟩ ↔
      ∃ resource, resolver.resource host value demand.formats = ⟨notes, .ok resource⟩ ∧
        Reference.ofResource demand demand.formats resource = .ok reference := by
  rw [reference_eq, Logged.bind_eq_ok_iff]
  constructor
  · rintro ⟨earlier, resource, later, resolved, mapped, rfl⟩
    simp only [Logged.lift, Logged.mk.injEq] at mapped
    obtain ⟨rfl, mapped⟩ := mapped
    exact ⟨resource, by simpa using resolved, mapped⟩
  · rintro ⟨resource, resolved, mapped⟩
    exact ⟨notes, resource, [], resolved, by simp [Logged.lift, mapped], by simp⟩

/-- A text completes to the reference it reads as, when that names a format, and otherwise
to that reference with the format inference gives and the compression it infers, unless
one is written. -/
theorem complete_eq_ok {spec : Spec} :
    (resolver.complete host value).result = .ok spec ↔
      ∃ read, Spec.split value = .ok read ∧
        (read.format.isSome ∧ spec = read ∨
          read.format = none ∧ ∃ format compression,
            (resolver.inference.guess host read.path).result = .ok (format, compression) ∧
            spec = { read with
              format := some format
              compression := read.compression.or compression }) := by
  rw [complete_result]
  cases Spec.split value with
  | error error => simp
  | ok read =>
      simp only [Except.ok_bind, Except.ok.injEq, exists_eq_left']
      cases written : read.format with
      | none => simp [Spec.infer_eq_ok]
      | some name =>
          simp only [Option.isNone_some, Bool.false_eq_true, if_false, Except.ok.injEq,
            Option.isSome_some, true_and, reduceCtorEq, false_and, or_false]
          exact eq_comm

theorem complete_keeps {spec : Spec} (completed : (resolver.complete host value).result = .ok spec) :
    ∃ read, Spec.split value = .ok read ∧ spec.path = read.path ∧ spec.options = read.options := by
  obtain ⟨read, split, same | ⟨-, format, compression, -, rfl⟩⟩ := complete_eq_ok.mp completed
  · exact ⟨read, split, by rw [same.2], by rw [same.2]⟩
  · exact ⟨read, split, rfl, rfl⟩

/-- A prepared reference is a completed one with its compression settled for a format that
fits it, that the caller allows and that the resolver knows. -/
theorem prepare_ok {checked : Spec} {format : Format}
    (prepared : (resolver.prepare host value allowed).result = .ok (checked, format)) :
    ∃ completed, (resolver.complete host value).result = .ok completed ∧
      checked = completed.settle format ∧ completed.Fits format ∧
      format.name ∈ allowed ∧ format.name ∈ resolver.known := by
  rw [prepare_result] at prepared
  obtain ⟨completed, done, checks⟩ := Except.bind_eq_ok prepared
  obtain ⟨fits, listed, settled⟩ := Spec.validate_eq_ok.mp checks
  simp only [List.mem_filter, List.contains_iff_mem] at listed
  exact ⟨completed, done, settled, fits, listed.1, listed.2⟩

theorem prepare_switches {checked : Spec × Format}
    (prepared : (resolver.prepare host value allowed).result = .ok checked) :
    SwitchesRead checked.1.options := by
  obtain ⟨checked, format⟩ := checked
  obtain ⟨completed, done, rfl, -⟩ := prepare_ok prepared
  obtain ⟨read, split, -, kept⟩ := complete_keeps done
  rw [Spec.settle_options, kept]
  exact (Spec.split_readable split).switches

/-! ### Only the check reads the allowed formats -/

theorem prepare_checked {checked : Spec} {format : Format}
    (prepared : (resolver.prepare host value allowed).result = .ok (checked, format)) :
    checked.Fits format ∧ format.name ∈ allowed ∧ format.name ∈ resolver.known := by
  obtain ⟨completed, -, rfl, fits, listed, known⟩ := prepare_ok prepared
  exact ⟨fits.settle, listed, known⟩

/-- Preparing with other allowed formats that hold the format prepared gives the same. -/
theorem prepare_allowed {other : List String} {checked : Spec} {format : Format}
    (prepared : resolver.prepare host value allowed = ⟨notes, .ok (checked, format)⟩)
    (listed : format.name ∈ other) :
    resolver.prepare host value other = ⟨notes, .ok (checked, format)⟩ := by
  have known := (prepare_checked (by rw [prepared])).2.2
  obtain ⟨earlier, spec, completed, checks, rfl⟩ := prepare_eq_ok.mp prepared
  have stillListed : format.name ∈ other.filter resolver.known.contains := by
    simp [List.mem_filter, listed, known]
  exact prepare_eq_ok.mpr ⟨earlier, spec, completed, Spec.validate_allowed checks stillListed, rfl⟩

/-- A resolved resource is of a registered format that the caller allows and the resolver
knows, and has that format's kind. -/
theorem resource_registered {resource : Resource}
    (resolved : resolver.resource host value allowed = ⟨notes, .ok resource⟩) :
    ∃ format ∈ Format.registry, resource.format = format.name ∧ resource.kind = format.kind ∧
      format.name ∈ allowed ∧ format.name ∈ resolver.known := by
  obtain ⟨earlier, ⟨checked, format⟩, prepared, built, -⟩ := resource_eq_ok.mp resolved
  obtain ⟨fits, listed, known⟩ := prepare_checked (by rw [prepared])
  obtain ⟨kind, named, -⟩ := build_ok built
  exact ⟨format, fits.mem_registry, named, kind, listed, known⟩

theorem resource_mappable {resource : Resource}
    (resolved : (resolver.resource host value allowed).result = .ok resource) :
    ∀ file, resource = .single file → file.Mappable := by
  rintro file rfl
  rw [resource_result] at resolved
  obtain ⟨⟨checked, format⟩, prepared, built⟩ := Except.bind_eq_ok resolved
  exact build_mappable (prepare_checked prepared).1.mem_registry (prepare_switches prepared) built

/-- Resolving with other allowed formats that hold the resource's format gives the same
resource, with the same notes. -/
theorem resource_allowed {other : List String} {resource : Resource}
    (resolved : resolver.resource host value allowed = ⟨notes, .ok resource⟩)
    (listed : resource.format ∈ other) :
    resolver.resource host value other = ⟨notes, .ok resource⟩ := by
  obtain ⟨earlier, ⟨checked, format⟩, prepared, built, rfl⟩ := resource_eq_ok.mp resolved
  obtain ⟨-, named, -⟩ := build_ok built
  exact resource_eq_ok.mpr
    ⟨earlier, (checked, format), prepare_allowed prepared (named ▸ listed), built, rfl⟩

/-! ### Entry points -/

/-- A reference resolved for a demand is the one resolved for any reference, with the same
notes, and of a format the demand lists. -/
theorem reference_any_of_demand {demand : Demand} {reference : Reference}
    (resolved : resolver.reference host demand value = ⟨notes, .ok reference⟩) :
    resolver.reference host .any value = ⟨notes, .ok reference⟩ ∧
      reference.resource.format ∈ demand.formats := by
  obtain ⟨resource, found, mapped⟩ := reference_eq_ok.mp resolved
  obtain ⟨format, registered, named, -, listed, -⟩ := resource_registered found
  -- every registered format is among those of any reference
  have general : resolver.resource host value Demand.any.formats = ⟨notes, .ok resource⟩ :=
    resource_allowed found (named ▸ Format.mem_allNames registered)
  refine ⟨reference_eq_ok.mpr
    ⟨resource, general, ((ofResource_eq_ok Demand.any.formats).mp mapped).1⟩, ?_⟩
  rw [ofResource_resource mapped, named]
  exact listed

/-- A reference resolved for any reference, of a format a demand lists, is resolved for that
demand too, with the same notes. -/
theorem reference_demand_of_any {demand : Demand} {reference : Reference}
    (resolved : resolver.reference host .any value = ⟨notes, .ok reference⟩)
    (listed : reference.resource.format ∈ demand.formats) :
    resolver.reference host demand value = ⟨notes, .ok reference⟩ := by
  obtain ⟨resource, found, mapped⟩ := reference_eq_ok.mp resolved
  obtain ⟨format, registered, named, kind, -, -⟩ := resource_registered found
  rw [ofResource_resource mapped] at listed
  -- the demand admits the kind of each format it lists
  have admitted : demand.admits resource.kind = true := by
    rw [kind, ← Demand.mem_formats_iff demand registered, ← named]
    exact listed
  exact reference_eq_ok.mpr ⟨resource, resource_allowed found listed,
    (ofResource_eq_ok Demand.any.formats).mpr ⟨mapped, admitted⟩⟩

/-- Each entry point of a resolver is its generic one restricted to the formats it
demands: it resolves a text to a reference, with the same notes, exactly when the generic
entry point does and the reference's format is a demanded one. So a text the generic entry
point refuses, every other one refuses too. -/
theorem reference_iff_any_restricted (resolver : Resolver) (host : Host) (demand : Demand)
    (value : String) :
    (∀ notes reference, resolver.reference host demand value = ⟨notes, .ok reference⟩ ↔
      resolver.reference host .any value = ⟨notes, .ok reference⟩ ∧
        reference.resource.format ∈ demand.formats) ∧
    (∀ error, (resolver.reference host .any value).result = .error error →
      ∃ refusal, (resolver.reference host demand value).result = .error refusal) := by
  refine ⟨fun notes reference => ⟨reference_any_of_demand,
    fun ⟨resolved, listed⟩ => reference_demand_of_any resolved listed⟩, ?_⟩
  intro error failed
  cases resolved : (resolver.reference host demand value).result with
  | error refusal => exact ⟨refusal, rfl⟩
  | ok reference =>
      -- a reference for the demand would be one for any reference
      have succeeded : resolver.reference host demand value =
          ⟨(resolver.reference host demand value).notes, .ok reference⟩ := by
        rw [← resolved]
      rw [(reference_any_of_demand succeeded).1] at failed
      cases failed

/-- A text with two `#`s is refused for any reference, and so for a message too. -/
theorem message_refuses_with_any :
    (Resolver.generic.reference (Host.ofStatus fun _ => .missing) .any "a#b#c").result =
        .error (.manyHashes "a#b#c") ∧
      ∃ refusal, (Resolver.generic.reference (Host.ofStatus fun _ => .missing) .message
        "a#b#c").result = .error refusal :=
  have refused : (Resolver.generic.reference (Host.ofStatus fun _ => .missing) .any
      "a#b#c").result = .error (.manyHashes "a#b#c") := by rfl
  ⟨refused, (reference_iff_any_restricted _ _ .message _).2 _ refused⟩

end Locator.Resolver
