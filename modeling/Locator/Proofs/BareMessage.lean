import Locator.Proofs.Resolution
import Locator.Proofs.Grammar

namespace Locator

/-! # Messages named by a bare path

A message resolver is configured by an encoding name and the environment's: the first of
the two that is given and non-empty must name one of the four encodings, and with neither
the resolver reads `binpb`. A text with no options then reads as a message decided by the
last extension of its trimmed path and the one under it, whatever the host answers: a last
`.gz` or `.zst` is the compression, and the extension under it, in the same base name, must
name a message encoding; any other extension that names one gives it, uncompressed; every
other path is read in the configured encoding (`bare_message_reference`).
-/

/-- The encoding a message file's extension names. -/
def messageEncoding? : String → Option Encoding
  | ".bin" | ".binpb" => some .binpb
  | ".json" => some .json
  | ".txtpb" => some .txtpb
  | ".yaml" => some .yaml
  | _ => none

/-- A message file with no options, read in an encoding with both switches off. -/
def plainMessage (encoding : Encoding) (path : String) (compression : Compression) :
    MessageRef :=
  ⟨⟨encoding.format, path, compression, []⟩, encoding, false, false⟩

/-- The message a path with no options reads as, in the configured encoding. -/
def bareMessage (encoding : Encoding) (path : String) : Except Error MessageRef :=
  let extension := Path.extension path
  match extensionCompression? extension with
  | some compression =>
    match messageEncoding? (innerExtension path extension) with
    | some inner => .ok (plainMessage inner path compression)
    | none => .error (.unknownUnderCompression path extension)
  | none => .ok (plainMessage ((messageEncoding? extension).getD encoding) path .plain)

/-- The first of two settings that is given and non-empty. -/
def firstNamed (given environment : Option String) : Option String :=
  (given.filter fun name => name != "").or (environment.filter fun name => name != "")

/-- A text with no `#` reads as its trimmed form, with no format, compression or option. -/
theorem split_bare {value : String} (hashFree : '#' ∉ value.toList)
    (nonempty : Text.trim value ≠ "") :
    Spec.split value = .ok ⟨Text.trim value, none, none, []⟩ := by
  rw [Grammar.split_eq]
  have trimmedFree : '#' ∉ (Text.trim value).toList := fun member =>
    hashFree (Text.mem_trim member)
  generalize Text.trim value = text at trimmedFree nonempty ⊢
  have whole : Text.pieces '#' text = [text] := by
    simp [Text.pieces, Text.pieceChars_of_not_mem trimmedFree]
  have unopened : Grammar.optionsPart? text = none := by
    simp [Grammar.optionsPart?, whole]
  have unnamed : ∀ key, Grammar.lookup text key = none := by
    intro key
    simp [Grammar.lookup, Grammar.entries, Grammar.items, unopened]
  have read : Grammar.reading text = ⟨text, none, none, []⟩ := by
    simp [Grammar.reading, Grammar.pathPart, whole, unnamed, Grammar.entries, Grammar.items,
      unopened]
  have passed : Grammar.firstRefusal (Grammar.checks text) = none := by
    simp [Grammar.checks, Grammar.textChecks, Grammar.itemsChecks, Grammar.items,
      Grammar.compressionChecks, unnamed, unopened, Grammar.pathPart, whole,
      List.count_eq_zero_of_not_mem trimmedFree, String.isEmpty_iff, nonempty]
  rw [read]
  exact Grammar.verdict_of_passed passed _

/-! ### The configured encoding -/

theorem Encoding.ofName?_eq_some {name : String} {encoding : Encoding} :
    Encoding.ofName? name = some encoding ↔ encoding.name = name := by
  constructor
  · intro named
    unfold Encoding.ofName? at named
    split at named <;> cases named <;> rfl
  · rintro rfl
    cases encoding <;> rfl

theorem Encoding.ofName?_eq_none {name : String} :
    Encoding.ofName? name = none ↔ name ∉ Encoding.all.map Encoding.name := by
  constructor
  · intro unnamed listed
    obtain ⟨encoding, -, rfl⟩ := List.mem_map.mp listed
    cases encoding <;> cases unnamed
  · intro unlisted
    cases named : Encoding.ofName? name with
    | none => rfl
    | some encoding =>
        have listed : encoding ∈ Encoding.all := by cases encoding <;> decide
        exact absurd (List.mem_map.mpr ⟨encoding, listed, ofName?_eq_some.mp named⟩) unlisted

/-- The configured name is the first of the two settings given and non-empty. -/
theorem configuredEncoding_eq (given environment : Option String) :
    configuredEncoding given environment =
      match firstNamed given environment with
      | none => .ok .binpb
      | some name =>
        match Encoding.ofName? name with
        | some encoding => .ok encoding
        | none => .error (.unknownEncoding name) := by
  have present : (fun text : String => !text.isEmpty) = fun text => text != "" := by
    funext text
    cases empty : text.isEmpty <;> simp_all [String.isEmpty_iff]
  unfold configuredEncoding firstNamed
  rw [present]
  rfl

theorem configuredEncoding_eq_ok {given environment : Option String} {encoding : Encoding} :
    configuredEncoding given environment = .ok encoding ↔
      Encoding.ofName? ((firstNamed given environment).getD "binpb") = some encoding := by
  rw [configuredEncoding_eq]
  cases firstNamed given environment with
  | none => simp [Encoding.ofName?, eq_comm]
  | some name =>
      cases named : Encoding.ofName? name <;> simp [named]

theorem configuredEncoding_eq_error {given environment : Option String} {error : Error} :
    configuredEncoding given environment = .error error ↔
      ∃ name, firstNamed given environment = some name ∧
        name ∉ Encoding.all.map Encoding.name ∧ error = .unknownEncoding name := by
  rw [configuredEncoding_eq]
  cases firstNamed given environment with
  | none => simp
  | some name =>
      simp only [Option.some.injEq, exists_eq_left']
      cases named : Encoding.ofName? name with
      | none =>
          simp only [Except.error.injEq]
          exact ⟨fun same => ⟨Encoding.ofName?_eq_none.mp named, same.symm⟩,
            fun ⟨_, same⟩ => same.symm⟩
      | some encoding =>
          -- a name that reads as an encoding is one of the four
          have listed : name ∈ Encoding.all.map Encoding.name := by
            rw [← Encoding.ofName?_eq_some.mp named]
            cases encoding <;> decide
          simp only [reduceCtorEq, false_iff, not_and]
          exact fun unlisted => absurd listed unlisted

namespace Resolver

variable {encoding : Encoding}

/-- The message resolver finds in its table exactly the extensions that name a message
encoding: the archive extensions name formats it does not allow. -/
theorem message_lookup (extension : String) (bundled : Bool) :
    (message encoding).inference.lookup extension bundled =
      (messageEncoding? extension).map fun inner => (inner.format, none) := by
  by_cases tabled :
      extension ∈ [".bin", ".binpb", ".json", ".txtpb", ".yaml", ".tar", ".zip", ".tgz", ".git"]
  · simp only [List.mem_cons, List.not_mem_nil, or_false] at tabled
    rcases tabled with rfl | rfl | rfl | rfl | rfl | rfl | rfl | rfl | rfl <;> rfl
  · -- outside the table neither side names anything
    have unlisted : extensionFormat? extension = none := by
      unfold extensionFormat?
      split <;> simp_all
    have unnamed : messageEncoding? extension = none := by
      unfold messageEncoding?
      split <;> simp_all
    simp [Inference.lookup, unlisted, unnamed]

variable {host : Host} {path : String}

@[simp] theorem message_alwaysModule : (message encoding).inference.alwaysModule = false := rfl

@[simp] theorem message_streamDefault :
    (message encoding).inference.streamDefault = some encoding.format := rfl

@[simp] theorem message_acceptsProtoFile :
    (message encoding).inference.acceptsProtoFile = false := rfl

@[simp] theorem message_fallback : (message encoding).inference.fallback = .streamDefault := rfl

/-- A stream token has no extension, so it is never compressed, and the message resolver
reads it in its encoding just as a path with no extension. -/
theorem message_guess_of_token (token : Path.isStreamToken path = true) :
    ((message encoding).inference.guess host path).result = .ok (encoding.format, none) := by
  simp [Inference.guess, message, token]

/-- A message path whose last extension is a compression needs a message extension under
it. -/
theorem message_guess_compressed {compression : Compression}
    (compressed : extensionCompression? (Path.extension path) = some compression) :
    ((message encoding).inference.guess host path).result =
      match messageEncoding? (innerExtension path (Path.extension path)) with
      | some inner => .ok (inner.format, some compression)
      | none => .error (.unknownUnderCompression path (Path.extension path)) := by
  have streamed : Path.isStreamToken path = false := by
    cases token : Path.isStreamToken path with
    | false => rfl
    | true => simp [Inference.extension_of_streamToken token, extensionCompression?] at compressed
  simp only [Inference.guess, message_alwaysModule, message_streamDefault, streamed,
    Bool.false_eq_true, if_false]
  unfold Inference.byExtension
  simp only [message_lookup]
  cases messageEncoding? (innerExtension path (Path.extension path)) <;> simp [compressed]

/-- A message path with no compressed extension reads in the encoding its extension names,
and otherwise in the configured one. -/
theorem message_guess_uncompressed
    (uncompressed : extensionCompression? (Path.extension path) = none) :
    ((message encoding).inference.guess host path).result =
      .ok (((messageEncoding? (Path.extension path)).getD encoding).format, none) := by
  cases token : Path.isStreamToken path with
  | true =>
      rw [message_guess_of_token token, Inference.extension_of_streamToken token]
      rfl
  | false =>
      have named : encoding.format.isEmpty = false := by
        cases encoding <;> rfl
      simp only [Inference.guess, message_alwaysModule, message_streamDefault, token,
        Bool.false_eq_true, if_false]
      unfold Inference.byExtension
      simp only [message_lookup]
      cases messageEncoding? (Path.extension path) <;>
        simp [uncompressed, Inference.fallbackFormat, named]

/-- A message path with an encoding and compression inferred passes the checks and reads as
the plain message in that encoding, uncompressed unless a compression was inferred. -/
theorem message_settled (inner : Encoding) (path : String) (compression : Option Compression) :
    (Spec.validate ⟨path, some inner.format, compression, []⟩ Format.messageNames >>=
      fun checked => Resource.build checked.1 checked.2 >>=
        Reference.ofResource .message Format.messageNames) =
    .ok (.message (plainMessage inner path (compression.getD .plain))) := by
  cases compression with
  | none => cases inner <;> rfl
  | some written => cases inner <;> cases written <;> rfl

/-- The message resolver reads a text with no `#` from its trimmed path alone, whatever the
host answers. -/
theorem message_reference_bare (encoding : Encoding) (host : Host) {value : String}
    (hashFree : '#' ∉ value.toList) (nonempty : Text.trim value ≠ "") :
    ((message encoding).reference host .message value).result =
      Reference.message <$> bareMessage encoding (Text.trim value) := by
  have native : Format.messageNames.filter (message encoding).known.contains =
      Format.messageNames :=
    List.filter_eq_self.mpr fun _ listed => List.contains_iff_mem.mpr listed
  rw [reference_result, resource_result, prepare_result, complete_result,
    split_bare hashFree nonempty]
  simp only [Except.ok_bind, Option.isNone_none, if_true, Spec.infer_result, Demand.formats]
  rw [native]
  generalize Text.trim value = path
  -- unfolded once: the equation lemmas `simp [bareMessage]` would generate are slow to build
  unfold bareMessage
  cases compressed : extensionCompression? (Path.extension path) with
  | some compression =>
      rw [message_guess_compressed compressed]
      cases inner : messageEncoding? (innerExtension path (Path.extension path)) with
      | some found =>
          simp only [Option.none_or, Except.map_ok, Except.ok_bind, bind_assoc, message_settled,
            Option.getD_some, compressed, inner]
      | none =>
          simp only [Option.none_or, Except.map_error, Except.error_bind, compressed, inner]
  | none =>
      rw [message_guess_uncompressed compressed]
      simp only [Option.none_or, Except.map_ok, Except.ok_bind, bind_assoc, message_settled,
        Option.getD_none, compressed]

example : ((message .yaml).reference (Host.ofStatus fun _ => .missing) .message
    " logs/day.json.gz ").result = .ok (.message (plainMessage .json "logs/day.json.gz" .gzip)) := by
  rfl

/-- A message resolver is configured by the first encoding name given and non-empty, the
argument before the environment's, and must be one of the four encodings; with neither it
reads `binpb`. It reads a text with no `#` from the extensions of the trimmed path alone,
whatever the host answers: a last `.gz` or `.zst` is the compression and the extension under
it must name the encoding; any other extension naming one gives it, uncompressed; every
other path is read, uncompressed, in the configured encoding. -/
theorem bare_message_reference (given environment : Option String) (value : String)
    (hashFree : '#' ∉ value.toList) (nonempty : Text.trim value ≠ "") :
    (∀ error, configure .message given environment = .error error ↔
      ∃ name, firstNamed given environment = some name ∧
        name ∉ Encoding.all.map Encoding.name ∧ error = .unknownEncoding name) ∧
    (∀ resolver, configure .message given environment = .ok resolver ↔
      ∃ encoding, resolver = message encoding ∧
        (firstNamed given environment).getD "binpb" = encoding.name) ∧
    ∀ encoding host, ((message encoding).reference host .message value).result =
      Reference.message <$> bareMessage encoding (Text.trim value) := by
  -- configuring reads only the encoding, so it fails and succeeds with it
  have configured : configure .message given environment =
      message <$> configuredEncoding given environment := rfl
  refine ⟨fun error => ?_, fun resolver => ?_,
    fun encoding host => message_reference_bare encoding host hashFree nonempty⟩
  · rw [configured, ← configuredEncoding_eq_error]
    cases configuredEncoding given environment <;> simp
  · have chosen : ∀ encoding, (firstNamed given environment).getD "binpb" = encoding.name ↔
        configuredEncoding given environment = .ok encoding := fun encoding => by
      rw [configuredEncoding_eq_ok, Encoding.ofName?_eq_some, eq_comm]
    simp only [chosen, configured]
    cases configuredEncoding given environment <;> simp [eq_comm]

/-- A gzip-compressed JSON file is read as JSON whatever encoding the environment sets. -/
theorem compressed_json_message :
    '#' ∉ " logs/day.json.gz ".toList ∧ Text.trim " logs/day.json.gz " ≠ "" ∧
    ((∀ error, configure .message none (some "yaml") = .error error ↔
      ∃ name, firstNamed none (some "yaml") = some name ∧
        name ∉ Encoding.all.map Encoding.name ∧ error = .unknownEncoding name) ∧
    (∀ resolver, configure .message none (some "yaml") = .ok resolver ↔
      ∃ encoding, resolver = message encoding ∧
        (firstNamed none (some "yaml")).getD "binpb" = encoding.name) ∧
    ∀ encoding host, ((message encoding).reference host .message " logs/day.json.gz ").result =
      Reference.message <$> bareMessage encoding (Text.trim " logs/day.json.gz ")) :=
  have hashFree : '#' ∉ " logs/day.json.gz ".toList := by decide +kernel
  have nonempty : Text.trim " logs/day.json.gz " ≠ "" := by decide +kernel
  ⟨hashFree, nonempty, bare_message_reference none (some "yaml") _ hashFree nonempty⟩

end Resolver

end Locator
