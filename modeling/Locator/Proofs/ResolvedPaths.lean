import Locator.Proofs.Resolution
import Locator.Proofs.Normalization

namespace Locator

/-! # The paths of resolved resources

Building refuses a stream token as the path of a git repository, a proto file or a
directory, and stores a directory's path normalised. So a resolved repository or proto file
never names a stream, and a resolved directory's path is its own normal form
(`Resource.RealPath`).

A directory's path is meant to be no stream token either, but the check reads the path as
written and the directory keeps its normal form: `-` after `./` passes the check and names
the directory `-`, a stream token. A blank after `./` likewise survives normalisation but not
the trimming of the text when it is read again (`normalized_directory_escapes`). What does
hold: a directory whose path is neither a stream token nor starts with a blank is named again
by `<path>#format=dir`, which every resolver resolves to the same directory at the same entry
point, whatever the host (`resolved_paths_real`).
-/

/-- What a resolved resource promises about its path: a git repository and a proto file do
not name a stream, and a directory's path is in normal form. -/
def Resource.RealPath : Resource → Prop
  | .tree (.repository clone) => Path.isStreamToken clone.path = false
  | .protoFile file => Path.isStreamToken file.path = false
  | .tree (.directory folder) => Path.normalize folder.path = folder.path
  | _ => True

/-- The written reference that names the directory at a path. -/
def Spec.directory (path : String) : Spec := ⟨path, some "dir", none, []⟩

namespace Format

/-- The registry's only directory format is `dir`. -/
theorem eq_directory {format : Format} (listed : format ∈ registry)
    (directory : format.kind = .directory) : format = plain "dir" .directory [] := by
  simp only [registry, List.mem_cons, List.not_mem_nil, or_false] at listed
  rcases listed with rfl | rfl | rfl | rfl | rfl | rfl | rfl | rfl | rfl | rfl | rfl | rfl |
    rfl | rfl <;> first | rfl | cases directory

end Format

variable {spec : Spec} {format : Format} {resource : Resource}

theorem rejectStream_ok {path : String} {passed : Unit}
    (checked : rejectStream path format = .ok passed) : Path.isStreamToken path = false := by
  unfold rejectStream at checked
  split at checked
  · cases checked
  · rename_i passes
    simpa using passes

/-- A built resource names a real path. -/
theorem build_realPath (built : Resource.build spec format = .ok resource) : resource.RealPath := by
  unfold Resource.build at built
  cases kind : format.kind <;> simp only [kind] at built
  case single =>
      cases built
      trivial
  case archive =>
      obtain ⟨packed, -, rest⟩ := Except.bind_eq_ok built
      cases rest
      trivial
  case directory =>
      obtain ⟨-, -, rest⟩ := Except.bind_eq_ok built
      cases rest
      exact Path.normalize_normalize spec.path
  case git =>
      obtain ⟨passed, real, rest⟩ := Except.bind_eq_ok built
      obtain ⟨repository, read, rest⟩ := Except.bind_eq_ok rest
      cases rest
      show Path.isStreamToken repository.path = false
      rw [(readRepository_ok read).2]
      exact rejectStream_ok real
  case module =>
      obtain ⟨coordinate, -, rest⟩ := Except.bind_eq_ok built
      cases rest
      trivial
  case protoFile =>
      obtain ⟨passed, real, rest⟩ := Except.bind_eq_ok built
      obtain ⟨withPackage, -, rest⟩ := Except.bind_eq_ok rest
      cases rest
      exact rejectStream_ok real

/-- A built directory is the normal form of a path that is no stream token, under a
directory format. -/
theorem build_directory {folder : Directory}
    (built : Resource.build spec format = .ok (.tree (.directory folder))) :
    format.kind = .directory ∧ Path.isStreamToken spec.path = false ∧
      folder.format = format.name ∧ folder.path = Path.normalize spec.path := by
  have kind : format.kind = .directory := (build_ok built).1.symm
  simp only [Resource.build, kind] at built
  obtain ⟨passed, real, rest⟩ := Except.bind_eq_ok built
  cases rest
  exact ⟨kind, rejectStream_ok real, rfl, rfl⟩

/-- A path with no `#` that neither is empty nor starts with a blank reads back from the text
that names it as a directory. -/
theorem split_directory {path : String} (named : path ≠ "")
    (start : ∀ c ∈ path.toList.head?, Text.isBlank c = false) (hashFree : '#' ∉ path.toList) :
    Spec.split (path ++ "#format=dir") = .ok (Spec.directory path) := by
  have readable : (Spec.directory path).Readable :=
    ⟨named, start, hashFree, by simp [Spec.directory], by simp [Spec.directory],
      by simp [Spec.directory], by simp [Spec.directory], by simp [Spec.directory]⟩
  have rendered : (Spec.directory path).render = path ++ "#format=dir" := by
    simp [Spec.directory, Spec.render, Spec.renderOptions, Text.joinWith, String.append_assoc]
  have ending : Text.endsInBlank (Spec.directory path).render = false := by
    rw [rendered]
    simp [Text.endsInBlank, String.toList_append]
    decide
  rw [← rendered]
  exact Spec.split_render readable ending

namespace Resolver

variable {resolver : Resolver} {host : Host} {value : String} {allowed : List String}

/-- A prepared reference's path holds no `#`: it is a piece of the text cut at `#`. -/
theorem prepare_hashFree {checked : Spec}
    (prepared : (resolver.prepare host value allowed).result = .ok (checked, format)) :
    '#' ∉ checked.path.toList := by
  obtain ⟨completed, done, rfl, -⟩ := prepare_ok prepared
  obtain ⟨read, split, samePath, -⟩ := complete_keeps done
  rw [Spec.settle_path, samePath]
  exact (Spec.split_readable split).path_plain

/-- A resolver that knows `dir` and is allowed it resolves the text that names a directory
in normal form, with no `#`, no stream token and no blank in front, to that directory,
whatever the host. -/
theorem resource_directory {path : String} (listed : "dir" ∈ allowed)
    (known : "dir" ∈ resolver.known) (named : path ≠ "")
    (start : ∀ c ∈ path.toList.head?, Text.isBlank c = false) (hashFree : '#' ∉ path.toList)
    (real : Path.isStreamToken path = false) (normal : Path.normalize path = path) :
    (resolver.resource host (path ++ "#format=dir") allowed).result =
      .ok (.tree (.directory ⟨"dir", path⟩)) := by
  have fits : (Spec.directory path).Fits (Format.plain "dir" .directory []) :=
    ⟨rfl, by simp [Spec.settledCompression, Spec.directory, Format.plain],
      by simp [Spec.directory]⟩
  have checks : (Spec.directory path).validate (allowed.filter resolver.known.contains) =
      .ok ((Spec.directory path).settle (Format.plain "dir" .directory []),
        Format.plain "dir" .directory []) :=
    Spec.validate_eq_ok.mpr ⟨fits, by simp [Format.plain, listed, known], rfl⟩
  have written : (Spec.directory path).format.isNone = false := rfl
  rw [resource_result, prepare_result, complete_result, split_directory named start hashFree]
  simp only [Except.ok_bind, written, Bool.false_eq_true, if_false, checks]
  simp [Spec.directory, Resource.build, Format.plain, rejectStream, real, normal]

/-- A resolved resource names a real path, and a resolved directory whose path is no stream
token and does not start with a blank resolves again from the text that names it. -/
theorem resource_realPath
    (resolved : (resolver.resource host value allowed).result = .ok resource) :
    resource.RealPath ∧ ∀ folder, resource = .tree (.directory folder) →
      Path.isStreamToken folder.path = false →
      (∀ c ∈ folder.path.toList.head?, Text.isBlank c = false) →
      ∀ other, (resolver.resource other (folder.path ++ "#format=dir") allowed).result =
        .ok resource := by
  rw [resource_result] at resolved
  obtain ⟨⟨checked, format⟩, prepared, built⟩ := Except.bind_eq_ok resolved
  dsimp only at built
  refine ⟨build_realPath built, ?_⟩
  rintro ⟨name, path⟩ rfl real start other
  obtain ⟨fits, listed, known⟩ := prepare_checked prepared
  obtain ⟨directory, -, named, normalized⟩ := build_directory built
  dsimp only at named normalized
  obtain rfl : format = Format.plain "dir" .directory [] :=
    Format.eq_directory fits.mem_registry directory
  subst named
  have filled : path ≠ "" := normalized ▸ Path.normalize_ne_empty checked.path
  -- normalisation adds only slashes and dots to a path that holds no `#`
  have hashFree : '#' ∉ path.toList := fun member => by
    rw [normalized] at member
    rcases Path.mem_normalize member with original | slash | dot
    · exact prepare_hashFree prepared original
    · cases slash
    · cases dot
  have normal : Path.normalize path = path := by
    rw [normalized]
    exact Path.normalize_normalize checked.path
  exact resource_directory listed known filled start hashFree real normal

/-- The same holds of a reference resolved for a demand, whose resource is the one resolved
with the demand's formats. -/
theorem reference_realPath {demand : Demand} {reference : Reference}
    (resolved : (resolver.reference host demand value).result = .ok reference) :
    reference.resource.RealPath ∧ ∀ folder, reference = .source (.directory folder) →
      Path.isStreamToken folder.path = false →
      (∀ c ∈ folder.path.toList.head?, Text.isBlank c = false) →
      ∀ other, (resolver.reference other demand (folder.path ++ "#format=dir")).result =
        .ok reference := by
  rw [reference_result] at resolved
  obtain ⟨resource, found, mapped⟩ := Except.bind_eq_ok resolved
  have same := ofResource_resource mapped
  obtain ⟨real, again⟩ := resource_realPath found
  refine ⟨same ▸ real, ?_⟩
  rintro folder rfl notToken start other
  rw [reference_result, again folder same.symm notToken start other, Except.ok_bind]
  exact mapped

end Resolver

/-- A resolved git repository or proto file never names a stream, and a resolved directory's
path is its own normal form; a directory whose path is neither a stream token nor starts with
a blank is named again by `<path>#format=dir`, which the same resolver resolves, with the same
allowed formats or for the same demand and whatever the host, to the same directory. -/
theorem resolved_paths_real (resolver : Resolver) (host : Host) (value : String) :
    (∀ allowed resource, (resolver.resource host value allowed).result = .ok resource →
      resource.RealPath ∧ ∀ folder, resource = .tree (.directory folder) →
        Path.isStreamToken folder.path = false →
        (∀ c ∈ folder.path.toList.head?, Text.isBlank c = false) →
        ∀ other, (resolver.resource other (folder.path ++ "#format=dir") allowed).result =
          .ok resource) ∧
    (∀ demand reference, (resolver.reference host demand value).result = .ok reference →
      reference.resource.RealPath ∧ ∀ folder, reference = .source (.directory folder) →
        Path.isStreamToken folder.path = false →
        (∀ c ∈ folder.path.toList.head?, Text.isBlank c = false) →
        ∀ other, (resolver.reference other demand (folder.path ++ "#format=dir")).result =
          .ok reference) :=
  ⟨fun _ _ resolved => Resolver.resource_realPath resolved,
    fun _ _ resolved => Resolver.reference_realPath resolved⟩

/-- A source directory spelled with empty, `.` and `..` components resolves to its normal
form, which resolves again to the same directory on a host where everything is a directory. -/
theorem source_directory_reread :
    (Resolver.generic.reference (Host.ofStatus fun _ => .missing) .source
        "./src//lib/../#format=dir").result = .ok (.source (.directory ⟨"dir", "src"⟩)) ∧
    (Resolver.generic.reference (Host.ofStatus fun _ => .directory) .source
        "src#format=dir").result = .ok (.source (.directory ⟨"dir", "src"⟩)) := by
  have resolved : (Resolver.generic.reference (Host.ofStatus fun _ => .missing) .source
      "./src//lib/../#format=dir").result = .ok (.source (.directory ⟨"dir", "src"⟩)) := by
    rfl
  have start : ∀ c ∈ "src".toList.head?, Text.isBlank c = false := fun c found => by
    simp at found
    subst found
    decide
  have written : "src" ++ "#format=dir" = "src#format=dir" := by decide
  have again := ((resolved_paths_real _ _ _).2 .source _ resolved).2 ⟨"dir", "src"⟩ rfl
    (by decide) start (Host.ofStatus fun _ => .directory)
  rw [written] at again
  exact ⟨resolved, again⟩

/-- A resolved directory can name a stream: the stream check reads the path as written, so `-`
after `./` passes it and names the directory `-`, a stream token; and a blank after `./` names a
directory that, written again, loses the blank to trimming. -/
theorem normalized_directory_escapes :
    (Resolver.generic.reference (Host.ofStatus fun _ => .missing) .any
        "./-#format=dir").result = .ok (.source (.directory ⟨"dir", "-"⟩)) ∧
      Path.isStreamToken "-" = true ∧
    (Resolver.generic.reference (Host.ofStatus fun _ => .missing) .any
        "./ a#format=dir").result = .ok (.source (.directory ⟨"dir", " a"⟩)) ∧
    (Resolver.generic.reference (Host.ofStatus fun _ => .missing) .any
        " a#format=dir").result = .ok (.source (.directory ⟨"dir", "a"⟩)) := by
  refine ⟨?_, by decide, ?_, ?_⟩ <;> rfl

end Locator
