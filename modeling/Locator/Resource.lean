import Locator.Coordinate
import Locator.Json

namespace Locator

/-! Typed resources: what a reference points at, one shape per kind of format.

* a single message file, with its compression and the custom options it was given;
* an archive, with its archive type, compression, the subdirectory to use and how many
  leading path components to strip;
* a directory;
* a git repository, with the revision to check out, the clone depth, whether submodules
  are fetched, and the subdirectory to use;
* a module, by its coordinate;
* a single proto file, and whether the other files of its package come along.

Archives, directories and git repositories are source trees. `Resource.toJson` gives the
document of a resource, fields in the order listed here after `kind`, `format` and `path`.
-/

/-- What sort of revision a git repository is checked out at. -/
inductive RevisionKind where
  | branch
  | tag
  | ref
deriving DecidableEq, Repr

/-- The written name of a revision kind. -/
def RevisionKind.name : RevisionKind → String
  | .branch => "branch"
  | .tag => "tag"
  | .ref => "ref"

/-- A branch, tag or ref to check out; a ref may name the branch to clone so that the ref
can be found in it. -/
structure Revision where
  kind : RevisionKind
  name : String
  branch : Option String
deriving DecidableEq, Repr

/-- A single encoded message file. -/
structure SingleFile where
  format : String
  path : String
  compression : Compression
  customOptions : List (String × String)
deriving DecidableEq, Repr

/-- An archive of source files. -/
structure Archive where
  format : String
  path : String
  archiveType : ArchiveType
  compression : Compression
  subdir : String
  stripComponents : Nat
deriving DecidableEq, Repr

/-- A directory of source files. -/
structure Directory where
  format : String
  path : String
deriving DecidableEq, Repr

/-- A git repository of source files. -/
structure Repository where
  format : String
  path : String
  revision : Option Revision
  depth : Nat
  recurseSubmodules : Bool
  subdir : String
deriving DecidableEq, Repr

/-- A module, by its coordinate. -/
structure ModuleSource where
  format : String
  coordinate : Coordinate
deriving DecidableEq, Repr

/-- A single proto file. -/
structure ProtoFile where
  format : String
  path : String
  includePackageFiles : Bool
deriving DecidableEq, Repr

/-- A source tree: an archive, a directory or a git repository. -/
inductive Tree where
  | archive (archive : Archive)
  | directory (directory : Directory)
  | repository (repository : Repository)
deriving DecidableEq, Repr

/-- What a reference points at. -/
inductive Resource where
  | single (file : SingleFile)
  | tree (tree : Tree)
  | module (module : ModuleSource)
  | protoFile (file : ProtoFile)
deriving DecidableEq, Repr

namespace Tree

/-- The kind of a source tree. -/
def kind : Tree → Kind
  | .archive _ => .archive
  | .directory _ => .directory
  | .repository _ => .git

/-- The format name of a source tree. -/
def format : Tree → String
  | .archive packed => packed.format
  | .directory folder => folder.format
  | .repository clone => clone.format

end Tree

namespace Resource

/-- The kind of a resource. -/
def kind : Resource → Kind
  | .single _ => .single
  | .tree sources => sources.kind
  | .module _ => .module
  | .protoFile _ => .protoFile

/-- The format name of a resource. -/
def format : Resource → String
  | .single file => file.format
  | .tree sources => sources.format
  | .module named => named.format
  | .protoFile file => file.format

end Resource

/-! ### Documents -/

/-- The document of a text that may be absent. -/
def Json.ofOption : Option String → Json
  | some text => .str text
  | none => .null

/-- The document of a revision. -/
def Revision.toJson (revision : Revision) : Json :=
  .obj [("type", .str revision.kind.name), ("name", .str revision.name),
    ("branch", Json.ofOption revision.branch)]

/-- The document of a coordinate. -/
def Coordinate.toJson (coordinate : Coordinate) : Json :=
  .obj [("remote", .str coordinate.remote), ("owner", .str coordinate.owner),
    ("repository", .str coordinate.repository),
    ("reference", Json.ofOption coordinate.revision)]

/-- The document of a single message file. -/
def SingleFile.toJson (file : SingleFile) : Json :=
  .obj [("kind", .str Kind.single.name), ("format", .str file.format), ("path", .str file.path),
    ("compression", .str file.compression.name),
    ("custom_options", .obj (file.customOptions.map fun entry => (entry.1, .str entry.2)))]

/-- The document of a source tree. -/
def Tree.toJson : Tree → Json
  | .archive packed =>
    .obj [("kind", .str Kind.archive.name), ("format", .str packed.format),
      ("path", .str packed.path), ("archive_type", .str packed.archiveType.name),
      ("compression", .str packed.compression.name), ("subdir", .str packed.subdir),
      ("strip_components", .int packed.stripComponents)]
  | .directory folder =>
    .obj [("kind", .str Kind.directory.name), ("format", .str folder.format),
      ("path", .str folder.path)]
  | .repository clone =>
    .obj [("kind", .str Kind.git.name), ("format", .str clone.format),
      ("path", .str clone.path),
      ("git_ref", match clone.revision with
        | some revision => revision.toJson
        | none => .null),
      ("depth", .int clone.depth),
      ("recurse_submodules", .bool clone.recurseSubmodules),
      ("subdir", .str clone.subdir)]

/-- The document of a module. -/
def ModuleSource.toJson (module : ModuleSource) : Json :=
  .obj [("kind", .str Kind.module.name), ("format", .str module.format),
    ("module", module.coordinate.toJson)]

/-- The document of a proto file. -/
def ProtoFile.toJson (file : ProtoFile) : Json :=
  .obj [("kind", .str Kind.protoFile.name), ("format", .str file.format),
    ("path", .str file.path), ("include_package_files", .bool file.includePackageFiles)]

/-- The document of a resource. -/
def Resource.toJson : Resource → Json
  | .single file => file.toJson
  | .tree sources => sources.toJson
  | .module named => named.toJson
  | .protoFile file => file.toJson

end Locator
