import Locator.Proofs.Resolution

namespace Locator

/-! # What resolution learns from the filesystem

Resolution asks the host two questions, both while inferring the format of a text that
names none: the status of a `.proto` path when a proto file may be inferred, and whether a
module coordinate that reaches the fallback to a module or a directory names an existing
directory. The status matters only as far as the check of a proto file tells statuses
apart: nothing in the way (missing, or a file that is not a directory), a directory, or a
failure with its reason (`Status.Agree`). So two hosts that agree on those two questions
give the same resolution, notes included, at every entry point (`resolution_congr_hosts`),
and a text that names its format gives the same resolution on every host. The encoding
setting of the environment is read only by the message resolver, and only when no
non-empty encoding name is given.
-/

namespace Status

/-- Whether a status leaves a path free for a proto file: nothing is there, or a file that
is not a directory. -/
def leavesFree : Status → Bool
  | .missing | .present => true
  | .directory | .failed _ => false

/-- Two statuses that the check of a proto file cannot tell apart. -/
def Agree (first second : Status) : Prop :=
  first = second ∨ first.leavesFree = true ∧ second.leavesFree = true

instance (first second : Status) : Decidable (Agree first second) :=
  inferInstanceAs (Decidable (_ ∨ _))

end Status

variable {first second : Host} {path : String}

theorem checkProtoFile_free {host : Host} (free : (host.status path).leavesFree = true) :
    checkProtoFile host path = .ok () := by
  unfold checkProtoFile
  cases answer : host.status path <;> simp_all [Status.leavesFree]

theorem checkProtoFile_congr (agree : Status.Agree (first.status path) (second.status path)) :
    checkProtoFile first path = checkProtoFile second path := by
  rcases agree with same | ⟨free, free'⟩
  · unfold checkProtoFile
    rw [same]
  · rw [checkProtoFile_free free, checkProtoFile_free free']

theorem assumeModuleOrDirectory_congr
    (same : Coordinate.isCoordinate path = true → first.isDirectory path = second.isDirectory path) :
    assumeModuleOrDirectory first path = assumeModuleOrDirectory second path := by
  unfold assumeModuleOrDirectory
  by_cases coordinate : Coordinate.isCoordinate path = true
  · rw [same coordinate]
  · simp [coordinate]

namespace Inference

variable {settings : Inference}

theorem fallbackFormat_congr
    (same : settings.fallback = .moduleOrDirectory → Coordinate.isCoordinate path = true →
      first.isDirectory path = second.isDirectory path) :
    settings.fallbackFormat first path = settings.fallbackFormat second path := by
  unfold fallbackFormat
  split
  · rename_i chosen
    exact assumeModuleOrDirectory_congr (same chosen)
  · rfl
  · rfl

/-- Inference by extension asks the host only for the status of a `.proto` path that may be
a proto file, and only at the fallback whether a coordinate names a directory. -/
theorem byExtension_congr
    (proto : settings.acceptsProtoFile = true → Path.extension path = ".proto" →
      Status.Agree (first.status path) (second.status path))
    (fallback : settings.fallback = .moduleOrDirectory →
      extensionCompression? (Path.extension path) = none →
      settings.lookup (Path.extension path) true = none →
      ¬ (Path.extension path = ".proto" ∧ settings.acceptsProtoFile = true) →
      Coordinate.isCoordinate path = true → first.isDirectory path = second.isDirectory path) :
    settings.byExtension first path = settings.byExtension second path := by
  unfold byExtension
  cases compressed : extensionCompression? (Path.extension path) with
  | some compression => simp only [compressed, Logged.throw_eq, Logged.error_bind]
  | none =>
      cases found : settings.lookup (Path.extension path) true with
      | some entry => simp only [compressed, found]
      | none =>
          by_cases wanted : Path.extension path = ".proto" ∧ settings.acceptsProtoFile = true
          · simp only [wanted, beq_self_eq_true, Bool.and_self, if_true]
            rw [checkProtoFile_congr (proto wanted.2 wanted.1)]
          · have skipped : (Path.extension path == ".proto" && settings.acceptsProtoFile) = false := by
              simpa using wanted
            simp only [compressed, found, skipped, Bool.false_eq_true, if_false]
            rw [fallbackFormat_congr fun chosen => fallback chosen compressed found wanted]

theorem guess_congr
    (proto : settings.acceptsProtoFile = true → Path.extension path = ".proto" →
      Status.Agree (first.status path) (second.status path))
    (fallback : settings.fallback = .moduleOrDirectory →
      extensionCompression? (Path.extension path) = none →
      settings.lookup (Path.extension path) true = none →
      ¬ (Path.extension path = ".proto" ∧ settings.acceptsProtoFile = true) →
      Coordinate.isCoordinate path = true → first.isDirectory path = second.isDirectory path) :
    settings.guess first path = settings.guess second path := by
  have extension := byExtension_congr proto fallback
  unfold guess
  cases always : settings.alwaysModule with
  | true => simp only [if_true]
  | false =>
      cases stream : settings.streamDefault with
      | none => simpa only [Bool.false_eq_true, if_false] using extension
      | some format =>
          simp only [Bool.false_eq_true, if_false]
          split
          · rfl
          · exact extension

/-- Whether two hosts can tell a path apart for inference under the settings: the settings
take `.proto` paths as proto files, the path has that extension and the hosts report
statuses the check tells apart; or the settings fall back to a module or a directory, the
path reaches that fallback (its extension is neither compressed, nor listed with an allowed
format, nor `.proto`), reads as a module coordinate, and one host has a directory there and
the other not. -/
def Distinguishes (settings : Inference) (first second : Host) (path : String) : Prop :=
  (settings.acceptsProtoFile = true ∧ Path.extension path = ".proto" ∧
      ¬ Status.Agree (first.status path) (second.status path)) ∨
    (settings.fallback = .moduleOrDirectory ∧ extensionCompression? (Path.extension path) = none ∧
      settings.lookup (Path.extension path) true = none ∧ Path.extension path ≠ ".proto" ∧
      Coordinate.isCoordinate path = true ∧ first.isDirectory path ≠ second.isDirectory path)

instance (settings : Inference) (first second : Host) (path : String) :
    Decidable (settings.Distinguishes first second path) :=
  inferInstanceAs (Decidable (_ ∨ _))

/-- Settings whose fallback to a module or a directory comes with proto files, as the five
resolvers have them: a `.proto` path never reaches that fallback. -/
def ProtoBeforeFallback (settings : Inference) : Prop :=
  settings.fallback = .moduleOrDirectory → settings.acceptsProtoFile = true

/-- Two hosts that cannot tell a path apart give it the same inference. -/
theorem guess_congr_of_apart (modest : settings.ProtoBeforeFallback)
    (apart : ¬ settings.Distinguishes first second path) :
    settings.guess first path = settings.guess second path := by
  apply guess_congr
  · intro accepts proto
    exact Decidable.byContradiction fun differ => apart (Or.inl ⟨accepts, proto, differ⟩)
  · intro chosen compressed found notProto coordinate
    exact Decidable.byContradiction fun differ => apart
      (Or.inr ⟨chosen, compressed, found, fun proto => notProto ⟨proto, modest chosen⟩,
        coordinate, differ⟩)

end Inference

namespace Resolver

variable {resolver : Resolver} {value : String} {allowed : List String}

/-- Completing a text asks the host only while inferring the format of a reference that names
none. -/
theorem complete_congr
    (same : ∀ written, Spec.split value = .ok written → written.format = none →
      resolver.inference.guess first written.path = resolver.inference.guess second written.path) :
    resolver.complete first value = resolver.complete second value := by
  unfold complete
  cases split : Spec.split value with
  | error error => simp only [Logged.lift, Logged.error_bind]
  | ok written =>
      simp only [Logged.lift, Logged.ok_bind]
      split
      · rename_i unnamed
        have inferred : written.infer resolver.inference first =
            written.infer resolver.inference second := by
          unfold Spec.infer
          rw [same written split (Option.isNone_iff_eq_none.mp unnamed)]
        rw [inferred]
      · rfl

section

variable (same : ∀ written, Spec.split value = .ok written → written.format = none →
  resolver.inference.guess first written.path = resolver.inference.guess second written.path)
include same

theorem prepare_congr : resolver.prepare first value allowed = resolver.prepare second value allowed := by
  rw [prepare_eq, prepare_eq, complete_congr same]

theorem spec_congr : resolver.spec first value allowed = resolver.spec second value allowed := by
  unfold Resolver.spec
  rw [prepare_congr same]

theorem resource_congr :
    resolver.resource first value allowed = resolver.resource second value allowed := by
  rw [resource_eq, resource_eq, prepare_congr same]

theorem reference_congr {demand : Demand} :
    resolver.reference first demand value = resolver.reference second demand value := by
  rw [reference_eq, reference_eq, resource_congr same]

end

theorem forDemand_protoBeforeFallback (encoding : Encoding) :
    ∀ demand, (forDemand encoding demand).inference.ProtoBeforeFallback
  | .any | .sourceOrModule => fun _ => rfl
  | .message | .source | .module => fun chosen => by cases chosen

/-- Only the message resolver reads the configured encoding and the environment's, and it
reads the environment's only when no non-empty name is configured. -/
theorem configure_environment {demand : Demand} {given : Option String}
    (unread : demand ≠ .message ∨ ∃ name, given = some name ∧ name ≠ "")
    (environment environment' : Option String) :
    configure demand given environment = configure demand given environment' := by
  cases demand
  case message =>
      obtain ⟨name, rfl, named⟩ := unread.resolve_left (by simp)
      have present : (some name).filter (fun text => !text.isEmpty) = some name := by
        simp [named]
      simp only [configure, configuredEncoding, present, Option.some_or]
  all_goals rfl

/-- Each of the five resolvers gives a text the same resolution on two hosts, notes
included, at every entry point, unless the text names no format and the two hosts can tell
its path apart for inference: a `.proto` path, where the resolver takes proto files, with
statuses the check of a proto file tells apart; or a module coordinate that reaches the
fallback to a module or a directory, a directory on one host and not on the other. So a text
that names its format resolves alike on every host. The environment's encoding setting
changes only a message resolver configured with no encoding name. -/
theorem resolution_congr_hosts (encoding : Encoding) (factory : Demand) (first second : Host)
    (value : String)
    (apart : ∀ written, Spec.split value = .ok written → written.format = none →
      ¬ (forDemand encoding factory).inference.Distinguishes first second written.path) :
    (∀ demand, (forDemand encoding factory).reference first demand value =
      (forDemand encoding factory).reference second demand value) ∧
    (∀ allowed, (forDemand encoding factory).resource first value allowed =
      (forDemand encoding factory).resource second value allowed) ∧
    (∀ allowed, (forDemand encoding factory).spec first value allowed =
      (forDemand encoding factory).spec second value allowed) ∧
    (∀ given environment environment',
      (factory ≠ .message ∨ ∃ name, given = some name ∧ name ≠ "") →
      configure factory given environment = configure factory given environment') := by
  have same : ∀ written, Spec.split value = .ok written → written.format = none →
      (forDemand encoding factory).inference.guess first written.path =
        (forDemand encoding factory).inference.guess second written.path :=
    fun written split unnamed => Inference.guess_congr_of_apart
      (forDemand_protoBeforeFallback encoding factory) (apart written split unnamed)
  exact ⟨fun _ => reference_congr same, fun _ => resource_congr same, fun _ => spec_congr same,
    fun _ _ _ unread => configure_environment unread _ _⟩

/-- A coordinate with a listed extension asks nothing of the host of the generic resolver:
it resolves alike where a directory of that name exists and where nothing does. -/
theorem json_coordinate_hosts :
    (∀ written, Spec.split "buf.build/acme/weather.json" = .ok written → written.format = none →
      ¬ (forDemand .binpb .any).inference.Distinguishes (Host.ofStatus fun _ => .missing)
        (Host.ofStatus fun _ => .directory) written.path) ∧
    (∀ demand, (forDemand .binpb .any).reference (Host.ofStatus fun _ => .missing) demand
        "buf.build/acme/weather.json" =
      (forDemand .binpb .any).reference (Host.ofStatus fun _ => .directory) demand
        "buf.build/acme/weather.json") := by
  have apart : ∀ written, Spec.split "buf.build/acme/weather.json" = .ok written →
      written.format = none →
      ¬ (forDemand .binpb .any).inference.Distinguishes (Host.ofStatus fun _ => .missing)
        (Host.ofStatus fun _ => .directory) written.path := by
    intro written read _
    have readAs : Spec.split "buf.build/acme/weather.json" =
        .ok ⟨"buf.build/acme/weather.json", none, none, []⟩ := by rfl
    rw [readAs, Except.ok.injEq] at read
    subst read
    decide
  exact ⟨apart, (resolution_congr_hosts .binpb .any _ _ _ apart).1⟩

/-- The same coordinate is a module where no directory of that name exists and a directory
where one does, for the source-or-module resolver, which has no table entry for `.json`. -/
example :
    (Resolver.sourceOrModule.spec (Host.ofStatus fun _ => .missing) "buf.build/acme/weather.json"
      Format.sourceOrModuleNames).result = .ok ⟨"buf.build/acme/weather.json", some "mod", some .plain, []⟩ ∧
    (Resolver.sourceOrModule.spec (Host.ofStatus fun _ => .directory) "buf.build/acme/weather.json"
      Format.sourceOrModuleNames).result = .ok ⟨"buf.build/acme/weather.json", some "dir", some .plain, []⟩ :=
  ⟨rfl, rfl⟩

end Resolver

end Locator
