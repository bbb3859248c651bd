import Locator.Resource
import Locator.Validation
import Locator.Path
import Locator.Text.Integer

namespace Locator

/-! Building the typed resource of a checked reference.

`Resource.build` reads the options that the format took when the reference was checked:

* a single message keeps the options that are custom options of its format;
* an archive reads `subdir`, then `strip_components` (default 0);
* a directory, a git repository and a proto file refuse a stream token as path; a
  directory's path is normalised;
* a git repository refuses a branch together with a tag, then a tag together with a ref;
  the revision is the ref (with the branch to clone, if any), else the branch, else the
  tag; the depth is the given one, which must be at least 1, else 50 with a ref and 1
  without; then come `recurse_submodules` (default false) and `subdir`;
* a module reads its path as a coordinate;
* a proto file reads `include_package_files` (default false).

A count is a whole-number literal (`Text.readInteger?`) that is not negative. A
subdirectory has its backslashes turned into slashes and is normalised; `.` means none, and
it must neither start at the root nor climb out of it.
-/

/-- A whole-number option that must not be negative. -/
def readCount (key : OptionKey) (value : String) : Except Error Nat :=
  match Text.readInteger? value with
  | none => throw (.notInteger key value)
  | some number => if number < 0 then throw (.negative key number) else pure number.toNat

/-- The value of a switch option. -/
def readSwitch (key : OptionKey) (value : String) : Except Error Bool :=
  if value == "true" then pure true
  else if value == "false" then pure false
  else throw (.notSwitch key value)

/-- The subdirectory an option names, normalised, relative and inside the root. -/
def readSubdir : Option String → Except Error String
  | none => pure ""
  | some value =>
    let normal := Path.normalize (value.map fun c => if c = '\\' then '/' else c)
    if value.isEmpty || normal == "." then pure ""
    else if Path.isAbsolute normal then throw (.absoluteSubdir value)
    else if normal == ".." || normal.startsWith "../" then throw (.escapingSubdir value)
    else pure normal

/-- Refuses a stream token as the path of a format that needs a real path. -/
def rejectStream (path : String) (format : Format) : Except Error Unit :=
  if Path.isStreamToken path then throw (.streamPath path format.name) else pure ()

/-- The revision that the `branch`, `tag` and `ref` options select. -/
def selectRevision (branch tag ref : Option String) : Option Revision :=
  match ref, branch, tag with
  | some ref, _, _ => some ⟨.ref, ref, branch⟩
  | none, some branch, _ => some ⟨.branch, branch, none⟩
  | none, none, some tag => some ⟨.tag, tag, none⟩
  | none, none, none => none

/-- The clone depth: the given one, at least 1, else 50 with a ref and 1 without. -/
def readDepth (given : Option String) (hasRef : Bool) : Except Error Nat :=
  match given with
  | none => pure (if hasRef then 50 else 1)
  | some text => do
    let depth ← readCount .depth text
    if depth = 0 then throw .zeroDepth
    pure depth

/-- The git repository a checked reference names. -/
def readRepository (spec : Spec) (format : Format) : Except Error Repository := do
  let branch := spec.option? .branch
  let tag := spec.option? .tag
  let ref := spec.option? .ref
  if branch.isSome && tag.isSome then throw .branchAndTag
  if tag.isSome && ref.isSome then throw .tagAndRef
  let depth ← readDepth (spec.option? .depth) ref.isSome
  let recurse ← readSwitch .recurseSubmodules ((spec.option? .recurseSubmodules).getD "false")
  let subdir ← readSubdir (spec.option? .subdir)
  pure
    { format := format.name
      path := spec.path
      revision := selectRevision branch tag ref
      depth
      recurseSubmodules := recurse
      subdir }

/-- The archive a checked reference names. -/
def readArchive (spec : Spec) (format : Format) : Except Error Archive := do
  let some archiveType := format.archiveType | throw (.missingArchiveType format.name)
  let subdir ← readSubdir (spec.option? .subdir)
  let strip ← readCount .stripComponents ((spec.option? .stripComponents).getD "0")
  pure
    { format := format.name
      path := spec.path
      archiveType
      compression := spec.compression.getD .plain
      subdir
      stripComponents := strip }

/-- The typed resource of a checked reference and its format. -/
def Resource.build (spec : Spec) (format : Format) : Except Error Resource :=
  match format.kind with
  | .single =>
    pure (.single
      { format := format.name
        path := spec.path
        compression := spec.compression.getD .plain
        customOptions := (spec.options.filter fun entry => format.customKeys.contains entry.1).map
          fun entry => (entry.1.name, entry.2) })
  | .archive => return .tree (.archive (← readArchive spec format))
  | .directory => do
    rejectStream spec.path format
    return .tree (.directory ⟨format.name, Path.normalize spec.path⟩)
  | .git => do
    rejectStream spec.path format
    return .tree (.repository (← readRepository spec format))
  | .module => return .module ⟨format.name, ← Coordinate.parse spec.path⟩
  | .protoFile => do
    rejectStream spec.path format
    let withPackage ← readSwitch .includePackageFiles
      ((spec.option? .includePackageFiles).getD "false")
    return .protoFile ⟨format.name, spec.path, withPackage⟩

end Locator
