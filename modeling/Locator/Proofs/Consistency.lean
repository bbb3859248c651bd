import Locator.Proofs.Resolution

namespace Locator

/-! # Resolved references agree with the registry

Four stages fill in a resolved reference, each from a table of its own: inference gives a
format and the compression of the path's suffix, the check finds the registry entry and
settles the compression, the builder of the format's kind reads the options, and the
mapping picks the family of reference. Whatever the resolver, demand, text and host, what
comes out answers to the registry entry of its format (`Registered`): the entry's kind and
family, a compression the entry takes, which is the one written, else the one the suffix
stands for when the format was inferred, else the entry's default, else none; the entry's
archive type; and for a message, the encoding of its format, the options given as its
custom options, and the two switches exactly as written.
-/

/-- The compression a resolved reference carries, from the reference as written and its
format: the one written, else, only when the format was inferred, the one the path's suffix
stands for, else the format's default, else none. -/
def expectedCompression (settings : Inference) (written : Spec) (format : Format) :
    Compression :=
  let inferred := if written.format.isNone then settings.suffixCompression written.path else none
  (written.compression.or inferred).getD (format.defaultCompression.getD .plain)

/-- The family of reference that each kind of format maps to. -/
def Reference.Family (reference : Reference) (kind : Kind) : Prop :=
  ((∃ read, reference = .message read) ↔ kind = .single) ∧
    ((∃ tree, reference = .source tree) ↔ kind.isTree = true) ∧
    ((∃ named, reference = .module named) ↔ kind = .module) ∧
    ((∃ file, reference = .protoFile file) ↔ kind = .protoFile)

theorem Reference.family_kind (reference : Reference) :
    reference.Family reference.resource.kind := by
  rcases reference with read | (packed | folder | clone) | named | file <;>
    simp [Family, Reference.resource, Resource.kind, Tree.kind, Kind.isTree]

/-- What a resolved reference owes the registry entry of its format, given the reference
as written and the inference settings that completed it. -/
structure Registered (settings : Inference) (written : Spec) (format : Format)
    (reference : Reference) : Prop where
  found : Format.find? reference.resource.format = some format
  kind : reference.resource.kind = format.kind
  family : reference.Family format.kind
  compression : ∀ compression, reference.resource.compression? = some compression →
    compression ∈ format.compressions ∧ compression = expectedCompression settings written format
  archiveType : reference.resource.archiveType? = format.archiveType
  message : ∀ read, reference = .message read →
    Format.encoding? format.name = some read.encoding ∧
      read.file.customOptions = written.options.map (fun entry => (entry.1.name, entry.2)) ∧
      (∀ entry ∈ written.options, entry.1 ∈ format.customKeys) ∧
      (read.useProtoNames = true ↔ written.option? .useProtoNames = some "true") ∧
      (read.useEnumNumbers = true ↔ written.option? .useEnumNumbers = some "true")

namespace Resolver

variable {resolver : Resolver} {host : Host} {value : String} {allowed : List String}

/-- A checked reference keeps the path and options written, and carries the compression
expected of the written reference and its format. -/
theorem prepare_written {checked : Spec} {format : Format}
    (prepared : (resolver.prepare host value allowed).result = .ok (checked, format)) :
    ∃ written, Spec.split value = .ok written ∧ checked.options = written.options ∧
      checked.compression = some (expectedCompression resolver.inference written format) := by
  obtain ⟨completed, done, rfl, -⟩ := prepare_ok prepared
  obtain ⟨written, split, kept | inferred⟩ := complete_eq_ok.mp done
  · -- a written format: nothing inferred
    obtain ⟨named, rfl⟩ := kept
    refine ⟨completed, split, rfl, ?_⟩
    simp [expectedCompression, Spec.settledCompression, Option.isSome_iff_ne_none.mp named]
  · -- an inferred format: the suffix gives the compression unless one is written
    obtain ⟨unnamed, format', compression, guessed, rfl⟩ := inferred
    refine ⟨written, split, rfl, ?_⟩
    simp [expectedCompression, Spec.settledCompression, unnamed,
      Inference.guess_compression guessed]

/-- A resource built from a checked reference has its format's registry entry, kind and
archive type, and carries the compression expected of what was written. -/
theorem build_registered {checked written : Spec} {format : Format} {resource : Resource}
    (fits : checked.Fits format)
    (compressed : checked.compression = some (expectedCompression resolver.inference written format))
    (built : Resource.build checked format = .ok resource) :
    Format.find? resource.format = some format ∧ resource.kind = format.kind ∧
      (∀ compression, resource.compression? = some compression →
        compression ∈ format.compressions ∧
          compression = expectedCompression resolver.inference written format) ∧
      resource.archiveType? = format.archiveType := by
  obtain ⟨kind, named, carries, -⟩ := build_ok built
  refine ⟨named ▸ fits.find?_name, kind, ?_, build_archiveType fits.mem_registry built⟩
  -- the compression of a file or an archive is the one the check settled on
  intro carried held
  have same : carried = expectedCompression resolver.inference written format := by
    rw [carries carried held, compressed]
    rfl
  have settled : checked.settledCompression format =
      expectedCompression resolver.inference written format := by
    simp [Spec.settledCompression, compressed]
  exact ⟨same ▸ settled ▸ fits.compression, same⟩

/-- A message reference built from a checked reference has its format's encoding, the
options as written as its custom options, and switches that read them. -/
theorem message_as_written {checked written : Spec} {format : Format} {read : MessageRef}
    (fits : checked.Fits format) (switches : SwitchesRead checked.options)
    (options : checked.options = written.options)
    (built : Resource.build checked format = .ok (.single read.file))
    (made : MessageRef.ofFile read.file = .ok read) :
    Format.encoding? format.name = some read.encoding ∧
      read.file.customOptions = written.options.map (fun entry => (entry.1.name, entry.2)) ∧
      (∀ entry ∈ written.options, entry.1 ∈ format.customKeys) ∧
      (read.useProtoNames = true ↔ written.option? .useProtoNames = some "true") ∧
      (read.useEnumNumbers = true ↔ written.option? .useEnumNumbers = some "true") := by
  have named := (build_ok built).2.1
  have mappable := build_mappable fits.mem_registry switches built
  obtain ⟨-, encoded, proto, enum⟩ := (MessageRef.ofFile_eq_ok mappable).mp made
  obtain ⟨custom, keys⟩ := build_customOptions fits built
  rw [options] at custom keys
  refine ⟨named ▸ encoded, custom, keys, ?_, ?_⟩
  · rw [proto, SingleFile.option?_eq custom, beq_iff_eq]
    rfl
  · rw [enum, SingleFile.option?_eq custom, beq_iff_eq]
    rfl

/-- Every reference a resolver returns answers to the registry entry of its format: the
format is one the entry point demands and the resolver knows, and the reference has the
entry's kind, family, compressions, archive type and, for a message, encoding, with the
options and switches as written. -/
theorem resolved_reference_registered (resolver : Resolver) (host : Host) (demand : Demand)
    (value : String) (notes : List Note) (reference : Reference)
    (resolved : resolver.reference host demand value = ⟨notes, .ok reference⟩) :
    ∃ written format, Spec.split value = .ok written ∧
      reference.resource.format ∈ demand.formats ∧ reference.resource.format ∈ resolver.known ∧
      Registered resolver.inference written format reference := by
  obtain ⟨resource, found, mapped⟩ := reference_eq_ok.mp resolved
  obtain ⟨earlier, ⟨checked, format⟩, checkedRun, built, -⟩ := resource_eq_ok.mp found
  have prepared : (resolver.prepare host value demand.formats).result = .ok (checked, format) := by
    rw [checkedRun]
  obtain ⟨fits, listed, known⟩ := prepare_checked prepared
  obtain ⟨written, split, options, compressed⟩ := prepare_written prepared
  obtain ⟨entry, kind, compression, archiveType⟩ := build_registered fits compressed built
  have named := (build_ok built).2.1
  have pointed := ofResource_resource mapped
  subst pointed
  refine ⟨written, format, split, named ▸ listed, named ▸ known,
    ⟨entry, kind, kind ▸ reference.family_kind, compression, archiveType, ?_⟩⟩
  rintro read rfl
  exact message_as_written fits (prepare_switches prepared) options built
    (ofResource_message mapped)

/-- A message file named with a bare switch resolves, for a message, to a JSON message
reference that reads the switch. -/
theorem json_message_registered :
    (Resolver.generic.reference (Host.ofStatus fun _ => .missing) .message
        "x.json#use_proto_names").result =
      .ok (.message ⟨⟨"json", "x.json", .plain, [("use_proto_names", "true")]⟩, .json, true, false⟩) ∧
    ∃ written format, Spec.split "x.json#use_proto_names" = .ok written ∧
      "json" ∈ Demand.message.formats ∧ "json" ∈ Resolver.generic.known ∧
      Registered Resolver.generic.inference written format
        (.message ⟨⟨"json", "x.json", .plain, [("use_proto_names", "true")]⟩, .json, true, false⟩) :=
  have resolved : (Resolver.generic.reference (Host.ofStatus fun _ => .missing) .message
      "x.json#use_proto_names").result =
      .ok (.message ⟨⟨"json", "x.json", .plain, [("use_proto_names", "true")]⟩, .json, true, false⟩) :=
    by rfl
  ⟨resolved, resolved_reference_registered _ _ _ _ _ _ (by rw [← resolved])⟩

end Resolver

end Locator
