import Locator.Resource.Build
import Locator.Proofs.Normalization
import Locator.Proofs.Resolution

namespace Locator

/-! # A subdirectory stays inside its root

The `subdir` option of an archive or a git repository has its backslashes turned into
slashes and is normalised. Nothing or `.` means the root; a form that starts at the root
or climbs out of it with `..` is refused. What remains is `Path.Confined`: relative,
without backslashes, and made of plain components, none empty, `.` or `..`. Reading such
a subdirectory again gives it back, so reading is idempotent (`subdir_confined`), and every
archive and git repository that resolution builds carries a confined subdirectory or none.
-/

namespace Path

/-- A path with its backslashes turned into slashes. -/
def withSlashes (value : String) : String :=
  value.map fun c => if c = '\\' then '/' else c

/-- A subdirectory in normal form: relative, without backslashes, and made of plain
components. -/
structure Confined (subdir : String) : Prop where
  relative : isAbsolute subdir = false
  noBackslash : '\\' ∉ subdir.toList
  plain : ∀ part ∈ Text.pieces '/' subdir, Plain part

theorem withSlashes_of_backslashFree {value : String} (free : '\\' ∉ value.toList) :
    withSlashes value = value := by
  apply String.toList_injective
  rw [withSlashes, String.toList_map]
  conv => rhs; rw [← List.map_id value.toList]
  refine List.map_congr_left fun c member => ?_
  have different : c ≠ '\\' := fun same => free (by rw [← same]; exact member)
  simp [different]

theorem backslash_not_mem_withSlashes (value : String) : '\\' ∉ (withSlashes value).toList := by
  simp only [withSlashes, String.toList_map, List.mem_map, not_exists, not_and]
  intro c _
  split
  · decide
  · assumption

/-- A path whose components are plain is not one of the texts that name the root or climb
out of it. -/
theorem Confined.not_special {subdir : String} (confined : Confined subdir) :
    subdir ≠ "." ∧ subdir ≠ ".." ∧ subdir.startsWith "../" = false := by
  refine ⟨fun dot => ?_, fun up => ?_, ?_⟩
  · exact (confined.plain "." (by simp [dot, Text.pieces, Text.pieceChars])).2.1 rfl
  · exact (confined.plain ".." (by simp [up, Text.pieces, Text.pieceChars])).2.2.1 rfl
  · -- a text that starts with `../` has `..` as its first component
    rw [Bool.eq_false_iff]
    intro starts
    obtain ⟨rest, chars⟩ := (String.startsWith_string_iff.mp starts)
    have cut : Text.pieces '/' subdir = ".." :: Text.pieces '/' (String.ofList rest) := by
      rw [Text.pieces, ← chars]
      simp [Text.pieceChars, Text.pieces]
    exact (confined.plain ".." (by simp [cut])).2.2.1 rfl

/-- Plain components joined by slashes, without backslashes, are a confined subdirectory. -/
theorem confined_joinWith {plains : List String} (nonempty : plains ≠ [])
    (plain : ∀ part ∈ plains, Plain part)
    (noBackslash : '\\' ∉ (Text.joinWith "/" plains).toList) :
    Confined (Text.joinWith "/" plains) where
  relative := by
    obtain ⟨c, rest, chars, notSlash⟩ := joinWith_plain_head nonempty plain
    simp [isAbsolute, chars, Ne.symm notSlash]
  noBackslash := noBackslash
  plain := by
    have cut : Text.pieces '/' (Text.joinWith "/" plains) = plains :=
      Text.pieces_joinWith nonempty fun part member => (plain part member).2.2.2
    rw [cut]
    exact plain

/-- A confined subdirectory is its components joined by slashes, and its own normal form. -/
theorem Confined.normalize_eq {subdir : String} (confined : Confined subdir) :
    normalize subdir = subdir := by
  have joined := Text.joinWith_pieces '/' subdir
  rw [← joined]
  exact normalize_joinWith_plain (by simp [Text.pieces, Text.pieceChars_ne_nil]) confined.plain

end Path

/-! ### Reading the option -/

variable {value subdir : String}

theorem readSubdir_some (value : String) :
    readSubdir (some value) =
      if value = "" ∨ Path.normalize (Path.withSlashes value) = "." then .ok ""
      else if Path.isAbsolute (Path.normalize (Path.withSlashes value)) then
        .error (.absoluteSubdir value)
      else if Path.normalize (Path.withSlashes value) = ".." ∨
          (Path.normalize (Path.withSlashes value)).startsWith "../" then
        .error (.escapingSubdir value)
      else .ok (Path.normalize (Path.withSlashes value)) := by
  simp only [readSubdir, Path.withSlashes, Bool.or_eq_true, String.isEmpty_iff, beq_iff_eq]
  rfl

/-- A subdirectory read from an option is the root or confined. -/
theorem readSubdir_confined (read : readSubdir (some value) = .ok subdir) :
    subdir = "" ∨ Path.Confined subdir := by
  rw [readSubdir_some] at read
  split at read
  · exact Or.inl (Except.ok.inj read).symm
  rename_i notRoot
  simp only [not_or] at notRoot
  split at read
  · cases read
  rename_i relative
  split at read
  · cases read
  rename_i inside
  simp only [not_or, Bool.not_eq_true] at inside
  obtain rfl := (Except.ok.inj read).symm
  obtain ⟨plains, nonempty, plain, normal⟩ :=
    Path.normalize_plain_of_inside notRoot.2 (Bool.eq_false_iff.mpr relative) inside
  -- a normal form keeps no character the path did not have, and slashes replaced the
  -- backslashes
  have noBackslash : '\\' ∉ (Path.normalize (Path.withSlashes value)).toList := by
    intro member
    rcases Path.mem_normalize member with kept | slash | dot
    · exact Path.backslash_not_mem_withSlashes value kept
    · cases slash
    · cases dot
  rw [normal] at noBackslash ⊢
  exact Or.inr (Path.confined_joinWith nonempty plain noBackslash)

/-- A confined subdirectory reads as itself. -/
theorem readSubdir_of_confined (confined : Path.Confined subdir) (nonempty : subdir ≠ "") :
    readSubdir (some subdir) = .ok subdir := by
  obtain ⟨notDot, notUp, notEscaping⟩ := confined.not_special
  rw [readSubdir_some, Path.withSlashes_of_backslashFree confined.noBackslash,
    confined.normalize_eq]
  simp [nonempty, notDot, notUp, notEscaping, confined.relative]

theorem readSubdir_idempotent (value : String) :
    (readSubdir (some value) >>= fun subdir => readSubdir (some subdir)) = readSubdir (some value) := by
  cases read : readSubdir (some value) with
  | error error => rfl
  | ok subdir =>
      rw [Except.ok_bind]
      rcases readSubdir_confined read with rfl | confined
      · rfl
      · by_cases empty : subdir = ""
        · subst empty
          rfl
        · exact readSubdir_of_confined confined empty

/-- A subdirectory that reading gives is the root or confined, and reads as itself. -/
theorem readSubdir_settled {given : Option String} (read : readSubdir given = .ok subdir) :
    (subdir ≠ "" → Path.Confined subdir) ∧ readSubdir (some subdir) = .ok subdir := by
  cases given with
  | none =>
      cases read
      exact ⟨fun nonempty => absurd rfl nonempty, rfl⟩
  | some value =>
      refine ⟨fun nonempty => (readSubdir_confined read).resolve_left nonempty, ?_⟩
      have again := readSubdir_idempotent value
      rw [read, Except.ok_bind] at again
      exact again

/-! ### The subdirectories resolution returns -/

/-- The subdirectory of a resource, for an archive or a git repository. -/
def Resource.subdir? : Resource → Option String
  | .tree (.archive packed) => some packed.subdir
  | .tree (.repository clone) => some clone.subdir
  | _ => none

variable {spec : Spec} {format : Format} {resource : Resource}

theorem readArchive_subdir {packed : Archive} (read : readArchive spec format = .ok packed) :
    readSubdir (spec.option? .subdir) = .ok packed.subdir := by
  unfold readArchive at read
  cases type : format.archiveType with
  | none => simp [type] at read
  | some archiveType =>
      simp only [type] at read
      obtain ⟨subdir, readOption, rest⟩ := Except.bind_eq_ok read
      obtain ⟨strip, -, rest⟩ := Except.bind_eq_ok rest
      cases rest
      exact readOption

theorem readRepository_subdir {repository : Repository}
    (read : readRepository spec format = .ok repository) :
    readSubdir (spec.option? .subdir) = .ok repository.subdir := by
  unfold readRepository at read
  dsimp only at read
  split at read
  · simp at read
  split at read
  · simp at read
  obtain ⟨depth, -, rest⟩ := Except.bind_eq_ok read
  obtain ⟨recursive, -, rest⟩ := Except.bind_eq_ok rest
  obtain ⟨subdir, readOption, rest⟩ := Except.bind_eq_ok rest
  cases rest
  exact readOption

/-- The subdirectory of a built resource is the one its `subdir` option reads as. -/
theorem build_subdir (built : Resource.build spec format = .ok resource)
    (member : subdir ∈ resource.subdir?) : readSubdir (spec.option? .subdir) = .ok subdir := by
  unfold Resource.build at built
  cases kind : format.kind <;> simp only [kind] at built
  case archive =>
      obtain ⟨packed, read, rest⟩ := Except.bind_eq_ok built
      cases rest
      cases member
      exact readArchive_subdir read
  case git =>
      obtain ⟨-, -, rest⟩ := Except.bind_eq_ok built
      obtain ⟨repository, read, rest⟩ := Except.bind_eq_ok rest
      cases rest
      cases member
      exact readRepository_subdir read
  case single =>
      cases built
      cases member
  case directory =>
      obtain ⟨-, -, rest⟩ := Except.bind_eq_ok built
      cases rest
      cases member
  case module =>
      obtain ⟨coordinate, -, rest⟩ := Except.bind_eq_ok built
      cases rest
      cases member
  case protoFile =>
      obtain ⟨-, -, rest⟩ := Except.bind_eq_ok built
      obtain ⟨withPackage, -, rest⟩ := Except.bind_eq_ok rest
      cases rest
      cases member

namespace Resolver

variable {resolver : Resolver} {host : Host} {text : String}

theorem resource_subdir {allowed : List String}
    (resolved : (resolver.resource host text allowed).result = .ok resource)
    (member : subdir ∈ resource.subdir?) :
    (subdir ≠ "" → Path.Confined subdir) ∧ readSubdir (some subdir) = .ok subdir := by
  rw [resource_result] at resolved
  obtain ⟨checked, -, built⟩ := Except.bind_eq_ok resolved
  exact readSubdir_settled (build_subdir built member)

theorem reference_subdir {demand : Demand} {reference : Reference}
    (resolved : (resolver.reference host demand text).result = .ok reference)
    (member : subdir ∈ reference.resource.subdir?) :
    (subdir ≠ "" → Path.Confined subdir) ∧ readSubdir (some subdir) = .ok subdir := by
  rw [reference_result] at resolved
  obtain ⟨resource, found, mapped⟩ := Except.bind_eq_ok resolved
  rw [ofResource_resource mapped] at member
  exact resource_subdir found member

end Resolver

/-- Reading a `subdir` option gives the root, a refusal, or a confined subdirectory that
reads as itself, so that reading twice is reading once; and the archives and git
repositories that resolution returns, as resources or inside references, carry such a
subdirectory. -/
theorem subdir_confined :
    (∀ value : String,
      readSubdir (some value) =
        (if value = "" ∨ Path.normalize (Path.withSlashes value) = "." then .ok ""
        else if Path.isAbsolute (Path.normalize (Path.withSlashes value)) then
          .error (.absoluteSubdir value)
        else if Path.normalize (Path.withSlashes value) = ".." ∨
            (Path.normalize (Path.withSlashes value)).startsWith "../" then
          .error (.escapingSubdir value)
        else .ok (Path.normalize (Path.withSlashes value))) ∧
      (∀ subdir, readSubdir (some value) = .ok subdir → subdir ≠ "" → Path.Confined subdir) ∧
      (readSubdir (some value) >>= fun subdir => readSubdir (some subdir)) =
        readSubdir (some value)) ∧
    (∀ (resolver : Resolver) host text allowed resource,
      (resolver.resource host text allowed).result = .ok resource →
      ∀ subdir ∈ resource.subdir?,
        (subdir ≠ "" → Path.Confined subdir) ∧ readSubdir (some subdir) = .ok subdir) ∧
    (∀ (resolver : Resolver) host demand text reference,
      (resolver.reference host demand text).result = .ok reference →
      ∀ subdir ∈ reference.resource.subdir?,
        (subdir ≠ "" → Path.Confined subdir) ∧ readSubdir (some subdir) = .ok subdir) := by
  refine ⟨fun value => ⟨readSubdir_some value, fun subdir read => ?_, readSubdir_idempotent value⟩,
    fun _ _ _ _ _ resolved _ member => Resolver.resource_subdir resolved member,
    fun _ _ _ _ _ resolved _ member => Resolver.reference_subdir resolved member⟩
  exact (readSubdir_confined read).resolve_left

end Locator
