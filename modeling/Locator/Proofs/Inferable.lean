import Locator.Proofs.Resolution
import Locator.Proofs.Grammar
import Locator.Proofs.Registry

namespace Locator

/-! # Inference gives only formats its resolver knows

Inference decides a format by one of six rules: every path is a module, a stream token is
the stream format, an extension of the table gives its format when the settings allow it,
`.proto` gives a proto file, and the fallback gives `dir`, a coordinate's `mod`, or the
stream format. `Inference.Gives` states these rules, and `guess_gives` shows that every
format inference settles on comes from one of them. The rules that do not consult the
allowed formats (the stream format, `.proto`, the fallbacks) stay inside what a resolver
knows only because of how the five resolvers are set up: `gives_inferable` checks them
resolver by resolver. So an inferred format is known to its resolver and, for messages, is
one of the four plain encodings; the check of a resolver's own entry point never refuses
it as unknown or not allowed; the fallback never classifies an empty path; and a `mod`
that the generic and source-or-module resolvers infer always reads as a coordinate
(`inference_stays_known`).
-/

/-- The formats the extension table gives. -/
def tableFormats : List String :=
  ["binpb", "json", "txtpb", "yaml", "tar", "zip", "git"]

theorem extensionFormat?_mem {extension format : String} {compression : Option Compression}
    (found : extensionFormat? extension = some (format, compression)) : format ∈ tableFormats := by
  unfold extensionFormat? at found
  split at found <;> cases found <;> decide

namespace Inference

/-- The formats inference may give a path, one constructor per rule that gives them; all but
the first apply only when not every path is a module. -/
inductive Gives (settings : Inference) (path : String) : String → Prop
  | module : settings.alwaysModule = true → Gives settings path "mod"
  | stream {format : String} : settings.alwaysModule = false →
      settings.streamDefault = some format → Gives settings path format
  | table {extension format : String} {compression : Option Compression} :
      settings.alwaysModule = false → extensionFormat? extension = some (format, compression) →
      format ∈ settings.allowed → Gives settings path format
  | protoFile : settings.alwaysModule = false → settings.acceptsProtoFile = true →
      Gives settings path "protofile"
  | directory : settings.alwaysModule = false →
      (settings.fallback = .streamDefault → ∀ format ∈ settings.streamDefault, format = "") →
      Gives settings path "dir"
  | coordinate : settings.alwaysModule = false → settings.fallback = .moduleOrDirectory →
      Coordinate.isCoordinate path = true → Gives settings path "mod"

variable {settings : Inference} {host : Host} {path format : String}
  {compression : Option Compression}

theorem lookup_gives {extension : String} {bundled : Bool} (always : settings.alwaysModule = false)
    (found : settings.lookup extension bundled = some (format, compression)) :
    settings.Gives path format := by
  unfold lookup at found
  cases entry : extensionFormat? extension with
  | none => simp [entry] at found
  | some listed =>
      obtain ⟨name, inner⟩ := listed
      simp only [entry] at found
      split at found
      · cases found
      rename_i allowed
      split at found
      · cases found
      cases found
      exact .table always entry (by simpa [List.contains_iff_mem] using allowed)

theorem fallbackFormat_gives (always : settings.alwaysModule = false)
    (chosen : (settings.fallbackFormat host path).result = .ok format) :
    settings.Gives path format := by
  unfold fallbackFormat at chosen
  cases fallback : settings.fallback <;> simp only [fallback] at chosen
  case moduleOrDirectory =>
      -- a coordinate that is no directory is a module, anything else a directory
      unfold assumeModuleOrDirectory at chosen
      by_cases empty : path.isEmpty = true
      · simp [empty] at chosen
      by_cases coordinate : Coordinate.isCoordinate path = true
      · by_cases directory : host.isDirectory path = true
        · simp [empty, coordinate, directory] at chosen
          subst chosen
          exact .directory always fun streamed => by simp [fallback] at streamed
        · simp [empty, coordinate, directory] at chosen
          subst chosen
          exact .coordinate always fallback coordinate
      · simp [empty, coordinate] at chosen
        subst chosen
        exact .directory always fun streamed => by simp [fallback] at streamed
  case streamDefault =>
      cases stream : settings.streamDefault with
      | none =>
          simp only [stream, Logged.pure_result, Except.ok.injEq] at chosen
          subst chosen
          exact .directory always fun _ => by simp [stream]
      | some named =>
          simp only [stream, Logged.pure_result, Except.ok.injEq] at chosen
          by_cases empty : named.isEmpty = true
          · rw [if_pos empty] at chosen
            subst chosen
            exact .directory always fun _ named listed => by
              rw [stream, Option.mem_some_iff] at listed
              rw [← listed]
              exact String.isEmpty_iff.mp empty
          · rw [if_neg empty] at chosen
            subst chosen
            exact .stream always stream
  case directory =>
      simp only [Logged.pure_result, Except.ok.injEq] at chosen
      subst chosen
      exact .directory always fun streamed => by simp [fallback] at streamed

theorem byExtension_gives (always : settings.alwaysModule = false)
    (guessed : (settings.byExtension host path).result = .ok (format, compression)) :
    settings.Gives path format := by
  cases compressed : extensionCompression? (Path.extension path) with
  | some suffix =>
      unfold byExtension at guessed
      cases inner : settings.lookup (innerExtension path (Path.extension path)) false with
      | some found =>
          simp [compressed, inner] at guessed
          obtain ⟨⟨rfl, -⟩⟩ := guessed
          exact lookup_gives always inner
      | none => simp [compressed, inner] at guessed
  | none =>
      cases found : settings.lookup (Path.extension path) true with
      | some entry =>
          unfold byExtension at guessed
          simp [compressed, found] at guessed
          subst guessed
          exact lookup_gives always found
      | none =>
          unfold byExtension at guessed
          by_cases proto : (Path.extension path == ".proto" && settings.acceptsProtoFile) = true
          · cases checked : checkProtoFile host path with
            | ok _ =>
                simp [compressed, found, proto, checked] at guessed
                obtain ⟨rfl, -⟩ := guessed
                simp only [Bool.and_eq_true] at proto
                exact .protoFile always proto.2
            | error refusal => simp [compressed, found, proto, checked] at guessed
          · cases chosen : (settings.fallbackFormat host path).result with
            | ok fallen =>
                simp [compressed, found, proto, chosen] at guessed
                obtain ⟨rfl, -⟩ := guessed
                exact fallbackFormat_gives always chosen
            | error refusal => simp [compressed, found, proto, chosen] at guessed

/-- Every format inference settles on comes from one of its rules. -/
theorem guess_gives (guessed : (settings.guess host path).result = .ok (format, compression)) :
    settings.Gives path format := by
  unfold guess at guessed
  cases always : settings.alwaysModule with
  | true =>
      simp [always] at guessed
      rw [← guessed.1]
      exact .module always
  | false =>
      cases stream : settings.streamDefault with
      | none =>
          simp only [always, stream, Bool.false_eq_true, if_false] at guessed
          exact byExtension_gives always guessed
      | some default =>
          by_cases token : Path.isStreamToken path = true
          · simp [always, stream, token] at guessed
            rw [← guessed.1]
            exact .stream always stream
          · simp only [always, stream, token, Bool.false_eq_true, if_false] at guessed
            exact byExtension_gives always guessed

/-! ### Refusals of inference -/

theorem checkProtoFile_unclassified {error : Error} (failed : checkProtoFile host path = .error error) :
    error ≠ .emptyClassification := by
  unfold checkProtoFile at failed
  split at failed <;> cases failed <;> simp

theorem fallbackFormat_error_empty {error : Error}
    (failed : (settings.fallbackFormat host path).result = .error error) : path = "" := by
  unfold fallbackFormat at failed
  split at failed
  · -- only an empty path is refused when choosing between a module and a directory
    unfold assumeModuleOrDirectory at failed
    by_cases empty : path.isEmpty = true
    · exact String.isEmpty_iff.mp empty
    · by_cases coordinate : Coordinate.isCoordinate path = true <;>
        by_cases directory : host.isDirectory path = true <;>
        simp [empty, coordinate, directory] at failed
  · split at failed <;> simp at failed
  · simp at failed

theorem byExtension_unclassified {error : Error} (nonempty : path ≠ "")
    (failed : (settings.byExtension host path).result = .error error) :
    error ≠ .emptyClassification := by
  rcases byExtension_refusal failed with rfl | checked | chosen
  · simp
  · exact checkProtoFile_unclassified checked
  · exact absurd (fallbackFormat_error_empty chosen) nonempty

/-- Inference never refuses a non-empty path as an empty one to classify. -/
theorem guess_unclassified {error : Error} (nonempty : path ≠ "")
    (failed : (settings.guess host path).result = .error error) : error ≠ .emptyClassification :=
  byExtension_unclassified nonempty (guess_refusal failed)

end Inference

/-! ### Refusals of reading and checking -/

namespace Grammar

/-- No check of an option item refuses a format name: an unknown format is never malformed
grammar. -/
theorem itemChecks_refusal {options item : String} {earlier : List OptionKey} {check : Check}
    (listed : check ∈ itemChecks options earlier item) (name : Option String) :
    check.refusal ≠ .unknownFormat name := by
  unfold itemChecks at listed
  split at listed <;> simp only [List.mem_cons, List.not_mem_nil, or_false] at listed
  · rcases listed with rfl | rfl | rfl <;> simp
  · rcases listed with rfl | rfl | rfl | rfl | rfl | rfl <;> simp

theorem itemsChecks_refusal {options : String} {earlier : List OptionKey} {items : List String}
    {check : Check} (listed : check ∈ itemsChecks options earlier items) (name : Option String) :
    check.refusal ≠ .unknownFormat name := by
  induction items generalizing earlier with
  | nil => cases listed
  | cons item rest ih =>
      rcases List.mem_append.mp listed with here | later
      · exact itemChecks_refusal here name
      · exact ih later

theorem checks_refusal {text : String} {check : Check} (listed : check ∈ checks text)
    (name : Option String) : check.refusal ≠ .unknownFormat name := by
  rcases List.mem_append.mp listed with listed | compressed
  · rcases List.mem_append.mp listed with whole | item
    · simp only [textChecks, List.mem_cons, List.not_mem_nil, or_false] at whole
      rcases whole with rfl | rfl | rfl | rfl <;> simp
    · exact itemsChecks_refusal item name
  · unfold compressionChecks at compressed
    split at compressed
    · simp only [List.mem_cons, List.not_mem_nil, or_false] at compressed
      subst compressed
      simp
    · cases compressed

/-- Reading never refuses a text for the format it names. -/
theorem split_refusal {value : String} {error : Error} (failed : Spec.split value = .error error)
    (name : Option String) : error ≠ .unknownFormat name := by
  rw [split_eq] at failed
  unfold verdict firstRefusal at failed
  cases found : (checks (Text.trim value)).find? Check.fails with
  | none => simp [found] at failed
  | some check =>
      simp only [found, Option.map_some, Except.error.injEq] at failed
      exact failed ▸ checks_refusal (List.mem_of_find?_eq_some found) name

/-- The format a text reads with is the value of its `format` option. -/
theorem split_format {value : String} {read : Spec} (readOk : Spec.split value = .ok read) :
    read.format = lookup (Text.trim value) .format := by
  rw [split_eq] at readOk
  unfold verdict at readOk
  split at readOk
  · cases readOk
  · rw [← Except.ok.inj readOk]
    simp only [reading]

end Grammar

/-- A check that finds an allowed format refuses only its compression or an option. -/
theorem Spec.validate_error_listed {spec : Spec} {allowed : List String} {entry : Format}
    {error : Error} (found : spec.format? = .ok entry) (listed : entry.name ∈ allowed)
    (failed : spec.validate allowed = .error error) :
    (∃ compression, error = .compressionNotAllowed compression entry.name entry.kind allowed) ∨
      ∃ key, error = .optionNotAllowed key entry.name entry.kind allowed := by
  simp only [Spec.validate, found, Except.ok_bind, List.contains_iff_mem, listed, if_true] at failed
  -- past the allowed format, the compression is checked and then each option
  split at failed
  · split at failed
    · simp only [Except.throw_eq, Except.error_bind, Except.error.injEq] at failed
      exact .inr ⟨_, failed.symm⟩
    · cases failed
  · simp only [Except.throw_eq, Except.error_bind, Except.error.injEq] at failed
    exact .inl ⟨_, failed.symm⟩

/-! ### The five resolvers -/

/-- The formats inference may give for a demand's own resolver: every format the demand
lists, and for messages only the four plain encodings. -/
def Demand.inferable : Demand → List String
  | .message => Encoding.all.map Encoding.format
  | demand => demand.formats

namespace Resolver

theorem forDemand_known (encoding : Encoding) (demand : Demand) :
    (forDemand encoding demand).known = demand.formats := by
  cases demand <;> rfl

theorem inferable_known (demand : Demand) : ∀ format ∈ demand.inferable, format ∈ demand.formats := by
  cases demand <;> decide

variable {encoding : Encoding} {demand : Demand} {path format : String}

/-- Each rule of inference gives the resolver of a demand only formats inferable for it.
The rules that ignore the allowed formats are checked against how each resolver is set
up. -/
theorem gives_inferable (gives : (forDemand encoding demand).inference.Gives path format) :
    format ∈ demand.inferable := by
  have encoded : encoding.format ∈ Encoding.all.map Encoding.format := by
    cases encoding <;> decide
  have named : encoding.format ≠ "" := by
    cases encoding <;> decide
  cases gives with
  | module always =>
      -- only the module resolver takes every path as a module
      cases demand
      case module => decide
      all_goals cases always
  | stream always streamed =>
      -- the generic resolver reads streams as `binpb`, the message resolver in its encoding
      cases demand <;> simp only [forDemand, generic, message, source, module, sourceOrModule,
        Option.some.injEq, reduceCtorEq] at streamed
      · rw [← streamed]
        decide
      · rw [← streamed]
        exact encoded
  | table always found allowed =>
      have tabled := extensionFormat?_mem found
      have closed : ∀ format ∈ tableFormats, format ∈ (forDemand encoding demand).inference.allowed →
          format ∈ demand.inferable := by
        cases demand <;> simp only [forDemand, generic, message, source, module, sourceOrModule] <;>
          decide
      exact closed _ tabled allowed
  | protoFile always accepted =>
      cases demand
      case any | sourceOrModule => decide
      all_goals cases accepted
  | directory always streamed =>
      -- the message resolver's stream format is never empty, so it never falls back to `dir`
      cases demand
      case message => exact absurd (streamed rfl encoding.format rfl) named
      case module => cases always
      all_goals decide
  | coordinate always fallback coordinate =>
      cases demand
      case any | sourceOrModule => decide
      all_goals cases fallback

/-- Only a coordinate falls back to `mod` for the resolvers that do not take every path as a
module. -/
theorem gives_module (other : demand ≠ .module)
    (gives : (forDemand encoding demand).inference.Gives path format) (isModule : format = "mod") :
    Coordinate.isCoordinate path = true := by
  have unencoded : encoding.format ≠ "mod" := by
    cases encoding <;> decide
  cases gives with
  | module always =>
      cases demand
      case module => exact absurd rfl other
      all_goals cases always
  | stream always streamed =>
      cases demand <;> simp only [forDemand, generic, message, source, module, sourceOrModule,
        Option.some.injEq, reduceCtorEq] at streamed
      · subst streamed
        exact absurd isModule (by decide)
      · subst streamed
        exact absurd isModule unencoded
  | table always found allowed =>
      subst isModule
      exact absurd (extensionFormat?_mem found) (by decide)
  | protoFile => exact absurd isModule (by decide)
  | directory => exact absurd isModule (by decide)
  | coordinate always fallback coordinate => exact coordinate

/-- Every format a demand lists is in the registry. -/
theorem formats_found (demand : Demand) :
    ∀ format ∈ demand.formats, (Format.find? format).isSome = true := by
  cases demand <;> decide

variable {resolver : Resolver} {host : Host} {value : String}

/-- A text that names no format is refused in completion by reading or by the inference of
its path. -/
theorem complete_unformatted_error {error : Error}
    (unformatted : Grammar.lookup (Text.trim value) .format = none)
    (failed : (resolver.complete host value).result = .error error) :
    Spec.split value = .error error ∨ ∃ read, Spec.split value = .ok read ∧
      (resolver.inference.guess host read.path).result = .error error := by
  rw [complete_result] at failed
  cases readOk : Spec.split value with
  | error refusal =>
      simp only [readOk, Except.error_bind, Except.error.injEq] at failed
      exact .inl (congrArg Except.error failed)
  | ok read =>
      have unnamed : read.format = none := (Grammar.split_format readOk).trans unformatted
      simp only [readOk, Except.ok_bind, unnamed, Option.isNone_none, if_true] at failed
      exact .inr ⟨read, rfl, Spec.infer_eq_error failed⟩

/-- A text that names no format completes with the format inference gives its path. -/
theorem complete_unformatted_ok {spec : Spec}
    (unformatted : Grammar.lookup (Text.trim value) .format = none)
    (completed : (resolver.complete host value).result = .ok spec) :
    ∃ read compression, Spec.split value = .ok read ∧ spec.path = read.path ∧
      ∃ format, spec.format = some format ∧
        (resolver.inference.guess host read.path).result = .ok (format, compression) := by
  obtain ⟨read, readOk, ⟨written, -⟩ | ⟨-, format, compression, guessed, rfl⟩⟩ :=
    complete_eq_ok.mp completed
  · rw [Grammar.split_format readOk, unformatted] at written
    cases written
  · exact ⟨read, compression, readOk, rfl, format, rfl, guessed⟩

/-- A text that names no format is refused in completion only by reading or by inference,
and never as an empty path to classify: reading leaves no path empty. -/
theorem complete_unformatted_refused {error : Error}
    (unformatted : Grammar.lookup (Text.trim value) .format = none)
    (failed : (resolver.complete host value).result = .error error) :
    (Spec.split value = .error error ∨ error.category = .inference) ∧
      error ≠ .emptyClassification := by
  rcases complete_unformatted_error unformatted failed with unread | ⟨read, readOk, guessed⟩
  · -- reading refuses only malformed text, and an empty classification is inference's
    refine ⟨.inl unread, ?_⟩
    rintro rfl
    cases Spec.split_error unread
  · exact ⟨.inr (Inference.guess_error guessed),
      Inference.guess_unclassified (Spec.split_readable readOk).path_ne guessed⟩

/-- Neither reading nor inference refuses a format as unknown or as not allowed. -/
theorem refusal_not_format {error : Error}
    (refused : Spec.split value = .error error ∨ error.category = .inference) :
    (∀ name, error ≠ .unknownFormat name) ∧
      ∀ format kind allowed, error ≠ .formatNotAllowed format kind allowed := by
  rcases refused with unread | inference
  · refine ⟨Grammar.split_refusal unread, ?_⟩
    rintro _ _ _ rfl
    cases Spec.split_error unread
  · -- unknown and disallowed formats are malformed and policy refusals
    constructor
    · rintro _ rfl
      cases inference
    · rintro _ _ _ rfl
      cases inference

theorem parse_of_isCoordinate (coordinate : Coordinate.isCoordinate path = true) :
    ∃ found, Coordinate.parse path = .ok found := by
  unfold Coordinate.isCoordinate at coordinate
  cases parsed : Coordinate.parse path with
  | ok found => exact ⟨found, rfl⟩
  | error _ =>
      rw [parsed] at coordinate
      cases coordinate

/-- The resolver of a demand completes a text that names no format with a format inferable
for the demand, and with `mod` only for a coordinate unless every path is a module. -/
theorem complete_unformatted_inferable {spec : Spec}
    (unformatted : Grammar.lookup (Text.trim value) .format = none)
    (completed : ((forDemand encoding demand).complete host value).result = .ok spec) :
    ∃ format, spec.format = some format ∧ format ∈ demand.inferable ∧
      (format = "mod" → demand ≠ .module →
        ∃ coordinate, Coordinate.parse spec.path = .ok coordinate) := by
  obtain ⟨read, compression, -, path, format, named, guessed⟩ :=
    complete_unformatted_ok unformatted completed
  have gives := Inference.guess_gives guessed
  refine ⟨format, named, gives_inferable gives, fun isModule other => ?_⟩
  rw [path]
  exact parse_of_isCoordinate (gives_module other gives isModule)

/-- The entry point of a demand's own resolver refuses a text that names no format neither
as of an unknown format nor as of one it does not allow: the format inferred is registered
and listed for the demand. -/
theorem prepare_unformatted_refusal {error : Error}
    (unformatted : Grammar.lookup (Text.trim value) .format = none)
    (failed : ((forDemand encoding demand).prepare host value demand.formats).result =
      .error error) :
    (∀ name, error ≠ .unknownFormat name) ∧
      ∀ format kind allowed, error ≠ .formatNotAllowed format kind allowed := by
  have native : demand.formats.filter (forDemand encoding demand).known.contains =
      demand.formats := by
    rw [forDemand_known]
    exact List.filter_eq_self.mpr fun name listed => by simpa using listed
  rw [prepare_result, native] at failed
  cases completed : ((forDemand encoding demand).complete host value).result with
  | error refusal =>
      simp only [completed, Except.error_bind, Except.error.injEq] at failed
      subst failed
      exact refusal_not_format (complete_unformatted_refused unformatted completed).1
  | ok spec =>
      simp only [completed, Except.ok_bind] at failed
      obtain ⟨format, named, inferable, -⟩ := complete_unformatted_inferable unformatted completed
      have known := inferable_known demand format inferable
      obtain ⟨entry, found⟩ := Option.isSome_iff_exists.mp (formats_found demand format known)
      have checked : spec.format? = .ok entry := Spec.format?_eq_ok.mpr (by simp [named, found])
      have listed : entry.name ∈ demand.formats := (Format.find?_name found) ▸ known
      rcases Spec.validate_error_listed checked listed failed with ⟨_, rfl⟩ | ⟨_, rfl⟩ <;> simp

/-- For each of the five resolvers, a text that names no format is refused in completion
only by reading or by inference, never as an empty path to classify, or completes with a
format the resolver knows: one of the four plain encodings for messages, and `mod` only for
a coordinate unless every path is a module. So the resolver's own entry point never refuses
such a text for an unknown format or for one it does not allow. -/
theorem inference_stays_known (encoding : Encoding) (demand : Demand) (host : Host)
    (value : String) (unformatted : Grammar.lookup (Text.trim value) .format = none) :
    (∀ error, ((forDemand encoding demand).complete host value).result = .error error →
      (Spec.split value = .error error ∨ error.category = .inference) ∧
        error ≠ .emptyClassification) ∧
    (∀ spec, ((forDemand encoding demand).complete host value).result = .ok spec →
      ∃ format, spec.format = some format ∧ format ∈ (forDemand encoding demand).known ∧
        (demand = .message → format ∈ Encoding.all.map Encoding.format) ∧
        (format = "mod" → demand ≠ .module →
          ∃ coordinate, Coordinate.parse spec.path = .ok coordinate)) ∧
    (∀ error, ((forDemand encoding demand).prepare host value demand.formats).result = .error error →
      (∀ name, error ≠ .unknownFormat name) ∧
        ∀ format kind allowed, error ≠ .formatNotAllowed format kind allowed) := by
  refine ⟨fun error failed => complete_unformatted_refused unformatted failed, ?_,
    fun error failed => prepare_unformatted_refusal unformatted failed⟩
  intro spec completed
  obtain ⟨format, named, inferable, coordinate⟩ :=
    complete_unformatted_inferable unformatted completed
  refine ⟨format, named, ?_, ?_, coordinate⟩
  · rw [forDemand_known]
    exact inferable_known demand format inferable
  · -- the formats inferable for messages are the four plain encodings
    rintro rfl
    exact inferable

/-- A coordinate that names no format is inferred a module by the generic resolver. -/
theorem coordinate_inference_known :
    Grammar.lookup (Text.trim "buf.build/acme/weather") .format = none ∧
    ((∀ error, ((forDemand .binpb .any).complete (Host.ofStatus fun _ => .missing)
        "buf.build/acme/weather").result = .error error →
      (Spec.split "buf.build/acme/weather" = .error error ∨ error.category = .inference) ∧
        error ≠ .emptyClassification) ∧
    (∀ spec, ((forDemand .binpb .any).complete (Host.ofStatus fun _ => .missing)
        "buf.build/acme/weather").result = .ok spec →
      ∃ format, spec.format = some format ∧ format ∈ (forDemand .binpb .any).known ∧
        (Demand.any = .message → format ∈ Encoding.all.map Encoding.format) ∧
        (format = "mod" → Demand.any ≠ .module →
          ∃ coordinate, Coordinate.parse spec.path = .ok coordinate)) ∧
    (∀ error, ((forDemand .binpb .any).prepare (Host.ofStatus fun _ => .missing)
        "buf.build/acme/weather" Demand.any.formats).result = .error error →
      (∀ name, error ≠ .unknownFormat name) ∧
        ∀ format kind allowed, error ≠ .formatNotAllowed format kind allowed)) :=
  have unformatted : Grammar.lookup (Text.trim "buf.build/acme/weather") .format = none := by
    decide +kernel
  ⟨unformatted, inference_stays_known .binpb .any _ _ unformatted⟩

example : ((forDemand .binpb .any).complete (Host.ofStatus fun _ => .missing)
    "buf.build/acme/weather").result = .ok ⟨"buf.build/acme/weather", some "mod", none, []⟩ := by
  rfl

end Resolver

end Locator
