import Locator.Proofs.Inference
import Locator.Proofs.Text

namespace Locator

/-! # Compression suffixes

A last extension `.gz` or `.zst` sets only the compression of an inferred reference: the
format comes from the extension under it in the same base name, which must be in the table
with no compression of its own and among the formats the settings allow; otherwise the path
is refused as one of unknown format under its suffix. Neither outcome depends on the stream
format, on proto files, on the fallback or on the host. Every other path is inferred with no
compression, except gzip for `.tgz`, which the table gives as `tar` with gzip. So a path whose
extension names an allowed format keeps that format with either suffix appended
(`compression_suffix_sets_compression`).
-/

namespace Path

/-- A name cut at its dots into more than one piece has the last piece as its extension. -/
theorem nameExtension_of_cut {name last : String} {front : List String}
    (cut : Text.pieces '.' name = front ++ [last]) (nonempty : front ≠ []) :
    nameExtension name = "." ++ last := by
  unfold nameExtension
  rw [cut]
  split
  · simp at *
  · rename_i only same
    exact absurd (by simpa using congrArg List.length same) nonempty
  · simp

/-- A name followed by a dot and more text without a dot has that ending as its extension. -/
theorem nameExtension_append {stem suffix : String} {word : List Char}
    (dotted : suffix.toList = '.' :: word) (dotFree : '.' ∉ word) :
    nameExtension (stem ++ suffix) = suffix := by
  have cut : Text.pieces '.' (stem ++ suffix) = Text.pieces '.' stem ++ [String.ofList word] := by
    simp [Text.pieces, String.toList_append, dotted, Text.pieceChars_append_sep,
      Text.pieceChars_of_not_mem dotFree]
  have nonempty : Text.pieces '.' stem ≠ [] := by
    simpa [Text.pieces] using Text.pieceChars_ne_nil '.' stem.toList
  rw [nameExtension_of_cut cut nonempty]
  apply String.toList_inj.mp
  simp [dotted]

/-- Text without a slash, appended to a path, extends its base name. -/
theorem baseName_append {path suffix : String} (slashFree : '/' ∉ suffix.toList) :
    baseName (path ++ suffix) = baseName path ++ suffix := by
  obtain ⟨front, last, cut, cutAfter⟩ := Text.pieceChars_append_free slashFree path.toList
  simp [baseName, Text.pieces, String.toList_append, cut, cutAfter, String.ofList_append]

/-- The extension under a suffix of a base name is the extension of the rest of that name. -/
theorem innerExtension_eq {path stem suffix : String} (named : baseName path = stem ++ suffix) :
    innerExtension path suffix = nameExtension stem := by
  simp [innerExtension, named, String.toList_append, ← String.length_toList]

end Path

namespace Inference

variable {settings : Inference} {host : Host} {path : String}

/-- A compression suffix is a dot and a word without dots or slashes. -/
theorem extensionCompression?_eq_some {suffix : String} {compression : Compression}
    (compressed : extensionCompression? suffix = some compression) :
    ∃ word, suffix.toList = '.' :: word ∧ '.' ∉ word ∧ '/' ∉ word := by
  unfold extensionCompression? at compressed
  split at compressed
  · exact ⟨['g', 'z'], by decide, by decide, by decide⟩
  · exact ⟨['z', 's', 't'], by decide, by decide, by decide⟩
  · cases compressed

/-- Under a compression suffix only table entries that bundle no compression count. -/
theorem lookup_unbundled (extension : String) :
    settings.lookup extension false =
      match extensionFormat? extension with
      | some (format, none) => if format ∈ settings.allowed then some (format, none) else none
      | _ => none := by
  unfold lookup
  cases extensionFormat? extension with
  | none => rfl
  | some entry =>
      obtain ⟨format, bundled⟩ := entry
      cases bundled <;> by_cases allowed : format ∈ settings.allowed <;> simp [allowed]

/-- Past the two shortcuts a path is inferred by its extensions. -/
theorem guess_of_not_token (always : settings.alwaysModule = false)
    (streamed : Path.isStreamToken path = false) :
    settings.guess host path = settings.byExtension host path := by
  unfold guess
  cases settings.streamDefault <;> simp [always, streamed]

theorem not_token_of_extension (named : Path.extension path ≠ "") :
    Path.isStreamToken path = false := by
  cases token : Path.isStreamToken path with
  | false => rfl
  | true => exact absurd (extension_of_streamToken token) named

/-- A path whose base name ends in a compression suffix takes its format from the extension
of the rest of the base name, whatever the stream format, proto files, fallback and host. -/
theorem guess_compressed {stem suffix : String} {compression : Compression}
    (always : settings.alwaysModule = false) (named : Path.baseName path = stem ++ suffix)
    (compressed : extensionCompression? suffix = some compression) :
    (settings.guess host path).result =
      match extensionFormat? (Path.nameExtension stem) with
      | some (format, none) =>
        if format ∈ settings.allowed then .ok (format, some compression)
        else .error (.unknownUnderCompression path suffix)
      | _ => .error (.unknownUnderCompression path suffix) := by
  obtain ⟨word, dotted, dotFree, -⟩ := extensionCompression?_eq_some compressed
  have extension : Path.extension path = suffix := by
    rw [Path.extension, named, Path.nameExtension_append dotted dotFree]
  have streamed : Path.isStreamToken path = false :=
    not_token_of_extension (by simp [extension, ← String.toList_inj, dotted])
  rw [guess_of_not_token always streamed]
  unfold byExtension
  simp only [extension, compressed, Path.innerExtension_eq named, lookup_unbundled]
  -- the table entry under the suffix decides, and the lookup has already filtered it
  cases extensionFormat? (Path.nameExtension stem) with
  | none => rfl
  | some entry =>
      obtain ⟨format, bundled⟩ := entry
      cases bundled with
      | some inner => rfl
      | none => by_cases allowed : format ∈ settings.allowed <;> simp [allowed]

/-- A path with no compression suffix is inferred with no compression, except the gzip of a
`.tgz` found in the table as `tar`. -/
theorem guess_uncompressed {format : String} {compression : Option Compression}
    (uncompressed : extensionCompression? (Path.extension path) = none)
    (guessed : (settings.guess host path).result = .ok (format, compression)) :
    compression = none ∨
      compression = some .gzip ∧ Path.extension path = ".tgz" ∧ format = "tar" := by
  have suffix := guess_compression guessed
  unfold suffixCompression at suffix
  cases always : settings.alwaysModule with
  | true => simp [always] at suffix; exact .inl suffix
  | false =>
      simp only [always, Bool.false_eq_true, if_false, uncompressed] at suffix
      by_cases tgz : Path.extension path = ".tgz" ∧ "tar" ∈ settings.allowed
      · rw [if_pos tgz] at suffix
        have found : settings.lookup ".tgz" true = some ("tar", some .gzip) := by
          simp [lookup, extensionFormat?, tgz.2]
        rw [guess_of_not_token always (not_token_of_extension (by rw [tgz.1]; decide))] at guessed
        unfold byExtension at guessed
        simp [tgz.1, found, extensionCompression?] at guessed
        exact .inr ⟨suffix, tgz.1, guessed.1.symm⟩
      · rw [if_neg tgz] at suffix
        exact .inl suffix

/-- With a compression suffix appended, a path whose extension names an allowed format keeps
that format and takes the suffix's compression. -/
theorem guess_append_suffix {suffix format : String} {compression : Compression}
    (always : settings.alwaysModule = false)
    (found : extensionFormat? (Path.extension path) = some (format, none))
    (allowed : format ∈ settings.allowed)
    (compressed : extensionCompression? suffix = some compression) :
    (settings.guess host (path ++ suffix)).result = .ok (format, some compression) := by
  obtain ⟨word, dotted, -, slashFree⟩ := extensionCompression?_eq_some compressed
  have named : Path.baseName (path ++ suffix) = Path.baseName path ++ suffix :=
    Path.baseName_append (by simp [dotted, slashFree])
  have extension : Path.nameExtension (Path.baseName path) = Path.extension path := rfl
  rw [guess_compressed always named compressed, extension, found]
  simp [allowed]

/-- A compression suffix sets only the compression, for every settings that does not take every
path as a module and every host: under `.gz` or `.zst` the format is that of the extension
under the suffix in the same base name when it is in the table with no compression of its own
and allowed, and otherwise the path is refused for inference; every other path gets no
compression but the gzip of a `.tgz` found as `tar`; and a path whose extension names an
allowed format keeps that format with a suffix appended. -/
theorem compression_suffix_sets_compression (settings : Inference) (host : Host)
    (always : settings.alwaysModule = false) :
    (∀ path stem suffix compression, Path.baseName path = stem ++ suffix →
      extensionCompression? suffix = some compression →
      (settings.guess host path).result =
        match extensionFormat? (Path.nameExtension stem) with
        | some (format, none) =>
          if format ∈ settings.allowed then .ok (format, some compression)
          else .error (.unknownUnderCompression path suffix)
        | _ => .error (.unknownUnderCompression path suffix)) ∧
    (∀ path suffix, (Error.unknownUnderCompression path suffix).category = .inference) ∧
    (∀ path format compression, extensionCompression? (Path.extension path) = none →
      (settings.guess host path).result = .ok (format, compression) →
      compression = none ∨
        compression = some .gzip ∧ Path.extension path = ".tgz" ∧ format = "tar") ∧
    (∀ path suffix format compression,
      extensionFormat? (Path.extension path) = some (format, none) → format ∈ settings.allowed →
      extensionCompression? suffix = some compression →
      (settings.guess host (path ++ suffix)).result = .ok (format, some compression)) :=
  ⟨fun _ _ _ _ named compressed => guess_compressed always named compressed,
    fun _ _ => rfl,
    fun _ _ _ uncompressed guessed => guess_uncompressed uncompressed guessed,
    fun _ _ _ _ found allowed compressed => guess_append_suffix always found allowed compressed⟩

/-- A message under a suffix keeps its format, and a dot file named by the suffix alone has no
extension under it, even in a directory whose name has one. -/
theorem suffix_under_message_and_dot_file :
    ((⟨Format.allNames, some "binpb", true, .moduleOrDirectory, false⟩ : Inference).guess
        (Host.ofStatus fun _ => .missing) "data/msg.json.zst").result = .ok ("json", some .zstd) ∧
    ((⟨Format.allNames, some "binpb", true, .moduleOrDirectory, false⟩ : Inference).guess
        (Host.ofStatus fun _ => .missing) "dir.json/.gz").result =
      .error (.unknownUnderCompression "dir.json/.gz" ".gz") := by
  have laws := compression_suffix_sets_compression
    ⟨Format.allNames, some "binpb", true, .moduleOrDirectory, false⟩ (Host.ofStatus fun _ => .missing)
    rfl
  refine ⟨?_, ?_⟩
  · rw [laws.1 "data/msg.json.zst" "msg.json" ".zst" .zstd (by decide) rfl]
    rfl
  · rw [laws.1 "dir.json/.gz" "" ".gz" .gzip (by decide) rfl]
    rfl

end Inference

end Locator
