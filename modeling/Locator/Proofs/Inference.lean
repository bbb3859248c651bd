import Locator.Inference
import Locator.Proofs.Logged

namespace Locator

/-! # What inference can decide

Inference asks the host at most two questions and may refuse a path, but every refusal is
one of inference (`guess_error`), and the compression it settles on reads off the path's
suffix alone (`guess_compression`): `.gz` and `.zst` give theirs and `.tgz` gives gzip when
`tar` may be inferred, whatever the host answers. Completing a reference keeps its path and
options and lets a written compression win over the inferred one (`infer_eq_ok`).
-/

namespace Inference

variable {settings : Inference} {host : Host} {path : String} {error : Error}

/-- The compression the suffix of a path stands for when its format is inferred: none when
every path is a module, `.gz` and `.zst` give theirs, and `.tgz` gives gzip when `tar` is
among the formats inference may produce. -/
def suffixCompression (settings : Inference) (path : String) : Option Compression :=
  if settings.alwaysModule then none
  else match extensionCompression? (Path.extension path) with
    | some compression => some compression
    | none => if Path.extension path = ".tgz" ∧ "tar" ∈ settings.allowed then some .gzip else none

theorem extension_of_streamToken (token : Path.isStreamToken path = true) :
    Path.extension path = "" := by
  simp only [Path.isStreamToken, Path.streamTokens, List.contains_iff_mem, List.mem_cons,
    List.not_mem_nil, or_false] at token
  rcases token with rfl | rfl | rfl | rfl <;> decide

/-- Only `.tgz` bundles a compression into a table entry. -/
theorem lookup_bundled {extension format : String} {compression : Option Compression}
    (found : settings.lookup extension true = some (format, compression)) :
    compression = if extension = ".tgz" ∧ "tar" ∈ settings.allowed then some .gzip else none := by
  unfold lookup at found
  cases entry : extensionFormat? extension with
  | none => simp [entry] at found
  | some listed =>
      obtain ⟨name, bundled⟩ := listed
      have taken : name ∈ settings.allowed ∧ name = format ∧ bundled = compression := by
        simpa [entry, List.contains_iff_mem] using found
      obtain ⟨allowed, rfl, rfl⟩ := taken
      unfold extensionFormat? at entry
      split at entry <;> simp_all

theorem lookup_none_bundled {extension : String} (missing : settings.lookup extension true = none) :
    ¬ (extension = ".tgz" ∧ "tar" ∈ settings.allowed) := by
  rintro ⟨rfl, allowed⟩
  simp [lookup, extensionFormat?, allowed] at missing

theorem checkProtoFile_error (failed : checkProtoFile host path = .error error) :
    error.category = .inference := by
  unfold checkProtoFile at failed
  split at failed <;> cases failed <;> rfl

theorem fallbackFormat_error (failed : (settings.fallbackFormat host path).result = .error error) :
    error.category = .inference := by
  unfold fallbackFormat at failed
  split at failed
  · -- only an empty path is refused when choosing between a module and a directory
    unfold assumeModuleOrDirectory at failed
    by_cases empty : path.isEmpty
    · simp [empty] at failed
      subst failed
      rfl
    · by_cases coordinate : Coordinate.isCoordinate path <;>
        by_cases directory : host.isDirectory path <;>
        simp [empty, coordinate, directory] at failed
  · split at failed <;> simp at failed
  · simp at failed

/-- Past both suffix tables a path is a proto file or gets the fallback format, either way
with no compression. -/
theorem byExtension_unlisted {format : String} {compression : Option Compression}
    (compressed : extensionCompression? (Path.extension path) = none)
    (missing : settings.lookup (Path.extension path) true = none)
    (guessed : (settings.byExtension host path).result = .ok (format, compression)) :
    compression = none := by
  unfold byExtension at guessed
  by_cases proto : (Path.extension path == ".proto" && settings.acceptsProtoFile) = true
  · cases checked : checkProtoFile host path with
    | ok _ =>
        simp [compressed, missing, proto, checked] at guessed
        exact guessed.2.symm
    | error refusal => simp [compressed, missing, proto, checked] at guessed
  · cases chosen : (settings.fallbackFormat host path).result with
    | ok _ =>
        simp [compressed, missing, proto, chosen] at guessed
        exact guessed.2.symm
    | error refusal => simp [compressed, missing, proto, chosen] at guessed

/-- A refusal of the extension rules is that of a compressed extension with no known format
under it, of the proto-file check, or of the fallback. -/
theorem byExtension_refusal (failed : (settings.byExtension host path).result = .error error) :
    error = .unknownUnderCompression path (Path.extension path) ∨
      checkProtoFile host path = .error error ∨
      (settings.fallbackFormat host path).result = .error error := by
  unfold byExtension at failed
  cases compressed : extensionCompression? (Path.extension path) with
  | some compression =>
      cases inner : settings.lookup (innerExtension path (Path.extension path)) false with
      | some found => simp [compressed, inner] at failed
      | none =>
          simp [compressed, inner] at failed
          exact .inl failed.symm
  | none =>
      cases found : settings.lookup (Path.extension path) true with
      | some entry => simp [compressed, found] at failed
      | none =>
          by_cases proto : (Path.extension path == ".proto" && settings.acceptsProtoFile) = true
          · cases checked : checkProtoFile host path with
            | ok _ => simp [compressed, found, proto, checked] at failed
            | error refusal =>
                simp [compressed, found, proto, checked] at failed
                subst failed
                exact .inr (.inl rfl)
          · cases chosen : (settings.fallbackFormat host path).result with
            | ok _ => simp [compressed, found, proto, chosen] at failed
            | error refusal =>
                simp [compressed, found, proto, chosen] at failed
                subst failed
                exact .inr (.inr rfl)

theorem byExtension_error (failed : (settings.byExtension host path).result = .error error) :
    error.category = .inference := by
  rcases byExtension_refusal failed with rfl | checked | chosen
  · rfl
  · exact checkProtoFile_error checked
  · exact fallbackFormat_error chosen

/-- Inference refuses a path only by its extension rules: every path is a module, and a
stream token is given the stream format. -/
theorem guess_refusal (failed : (settings.guess host path).result = .error error) :
    (settings.byExtension host path).result = .error error := by
  unfold guess at failed
  split at failed
  · simp at failed
  · split at failed
    · split at failed
      · simp at failed
      · exact failed
    · exact failed

/-- Every refusal of inference is an inference error. -/
theorem guess_error (failed : (settings.guess host path).result = .error error) :
    error.category = .inference :=
  byExtension_error (guess_refusal failed)

theorem byExtension_compression {format : String} {compression : Option Compression}
    (always : settings.alwaysModule = false)
    (guessed : (settings.byExtension host path).result = .ok (format, compression)) :
    compression = settings.suffixCompression path := by
  simp only [suffixCompression, always, Bool.false_eq_true, if_false]
  cases compressed : extensionCompression? (Path.extension path) with
  | some suffix =>
      unfold byExtension at guessed
      cases inner : settings.lookup (innerExtension path (Path.extension path)) false with
      | some found =>
          simp [compressed, inner] at guessed
          exact guessed.2.symm
      | none => simp [compressed, inner] at guessed
  | none =>
      cases found : settings.lookup (Path.extension path) true with
      | some entry =>
          unfold byExtension at guessed
          simp [compressed, found] at guessed
          subst guessed
          exact lookup_bundled found
      | none =>
          rw [if_neg (lookup_none_bundled found)]
          exact byExtension_unlisted compressed found guessed

/-- The compression inference settles on is the one the path's suffix stands for, whatever
the host answers. -/
theorem guess_compression {format : String} {compression : Option Compression}
    (guessed : (settings.guess host path).result = .ok (format, compression)) :
    compression = settings.suffixCompression path := by
  unfold guess at guessed
  cases always : settings.alwaysModule with
  | true =>
      simp [always] at guessed
      simp [suffixCompression, always, guessed.2]
  | false =>
      cases stream : settings.streamDefault with
      | none =>
          simp only [always, stream, Bool.false_eq_true, if_false] at guessed
          exact byExtension_compression always guessed
      | some default =>
          by_cases token : Path.isStreamToken path = true
          · -- a stream token has no extension, so no suffix compression
            simp [always, stream, token] at guessed
            rw [← guessed.2]
            simp [suffixCompression, always, extension_of_streamToken token, extensionCompression?]
          · simp only [always, stream, token, Bool.false_eq_true, if_false] at guessed
            exact byExtension_compression always guessed

end Inference

namespace Spec

variable {spec inferred : Spec} {settings : Inference} {host : Host}

/-- Completing a reference sets the inferred format and keeps a written compression over
the inferred one. -/
theorem infer_result :
    (spec.infer settings host).result =
      (fun (guessed : String × Option Compression) =>
        { spec with format := some guessed.1, compression := spec.compression.or guessed.2 }) <$>
        (settings.guess host spec.path).result := by
  unfold infer
  cases guessed : (settings.guess host spec.path).result <;> simp [guessed]

theorem infer_eq_ok :
    (spec.infer settings host).result = .ok inferred ↔
      ∃ format compression, (settings.guess host spec.path).result = .ok (format, compression) ∧
        inferred = { spec with format := some format, compression := spec.compression.or compression } := by
  rw [infer_result]
  cases (settings.guess host spec.path).result with
  | error error => simp
  | ok found =>
      obtain ⟨format, compression⟩ := found
      simp only [Except.map_ok, Except.ok.injEq]
      constructor
      · intro completed
        exact ⟨format, compression, rfl, completed.symm⟩
      · rintro ⟨format, compression, guessed, rfl⟩
        cases guessed
        rfl

theorem infer_eq_error {error : Error} (failed : (spec.infer settings host).result = .error error) :
    (settings.guess host spec.path).result = .error error := by
  rw [infer_result] at failed
  cases guessed : (settings.guess host spec.path).result <;> simp_all

end Spec

end Locator
