import Locator.Format.Basic

namespace Locator

/-! The format registry.

Fourteen formats, each with its kind, the compressions and option keys it accepts, the
compression it assumes when none is given, and, for archives, the archive type. Message
formats accept the two message options as custom options; archives take `subdir` and
`strip_components`; git takes the revision, depth, submodule and `subdir` options; a proto
file takes `include_package_files`.

Besides the registry this module holds the named format lists that entry points accept,
the message encoding of each message format, and the advisories for the three deprecated
names that bundle gzip into the format.
-/

/-- What a format is and which compressions and options it accepts. Lists are kept in
alphabetical order of the written names. -/
structure Format where
  name : String
  kind : Kind
  compressions : List Compression
  optionKeys : List OptionKey
  customKeys : List OptionKey
  defaultCompression : Option Compression
  archiveType : Option ArchiveType
deriving Repr

namespace Format

/-- Whether the format takes the option key, as an option of its own or a custom one. -/
def accepts (format : Format) (key : OptionKey) : Bool :=
  format.optionKeys.contains key || format.customKeys.contains key

/-- A single-message format. One that is compressed by default accepts only that
compression and none; the others accept every compression. -/
def message (name : String) (custom : Bool) (default : Option Compression) : Format :=
  { name
    kind := .single
    compressions := if default.isSome then [.gzip, .plain] else [.gzip, .plain, .zstd]
    optionKeys := []
    customKeys := if custom then [.useEnumNumbers, .useProtoNames] else []
    defaultCompression := default
    archiveType := none }

/-- An archive format. -/
def archive (name : String) (type : ArchiveType) (compressions : List Compression)
    (default : Option Compression) : Format :=
  { name
    kind := .archive
    compressions
    optionKeys := [.stripComponents, .subdir]
    customKeys := []
    defaultCompression := default
    archiveType := some type }

/-- A format without compression and without custom options. -/
def plain (name : String) (kind : Kind) (keys : List OptionKey) : Format :=
  { name
    kind
    compressions := [.plain]
    optionKeys := keys
    customKeys := []
    defaultCompression := none
    archiveType := none }

/-- Every format, in registry order. -/
def registry : List Format := [
  message "bin" false none,
  message "binpb" false none,
  message "json" true none,
  message "txtpb" false none,
  message "yaml" true none,
  message "bingz" false (some .gzip),
  message "jsongz" true (some .gzip),
  archive "tar" .tar [.gzip, .plain, .zstd] none,
  archive "targz" .tar [.gzip, .plain] (some .gzip),
  archive "zip" .zip [.plain] none,
  plain "git" .git [.branch, .depth, .recurseSubmodules, .ref, .subdir, .tag],
  plain "dir" .directory [],
  plain "mod" .module [],
  plain "protofile" .protoFile [.includePackageFiles]]

/-- The format with the given name. -/
def find? (name : String) : Option Format :=
  registry.find? fun format => format.name == name

/-- The names of every format, in registry order. -/
def allNames : List String :=
  registry.map Format.name

/-- The names of the single-message formats. -/
def messageNames : List String :=
  (registry.filter fun format => format.kind == .single).map Format.name

/-- The names of the formats of source trees. -/
def sourceNames : List String :=
  ["tar", "targz", "zip", "git", "dir"]

/-- The name of the module format. -/
def moduleNames : List String :=
  ["mod"]

/-- The names of the formats of source trees, modules and proto files. -/
def sourceOrModuleNames : List String :=
  sourceNames ++ ["mod", "protofile"]

/-- The encoding of a single-message format. -/
def encoding? : String → Option Encoding
  | "bin" | "binpb" | "bingz" => some .binpb
  | "json" | "jsongz" => some .json
  | "txtpb" => some .txtpb
  | "yaml" => some .yaml
  | _ => none

/-- The format to name instead of a deprecated one, which is then given `compression=gzip`. -/
def replacement? : String → Option String
  | "bingz" => some "binpb"
  | "jsongz" => some "json"
  | "targz" => some "tar"
  | _ => none

/-- The advisory for a deprecated format name. -/
def advisory? (name : String) : Option String :=
  (replacement? name).map fun use =>
    s!"Format \"{name}\" is deprecated. Use \"format={use},compression=gzip\" instead. " ++
      "This will continue to work forever, but updating is recommended."

end Format

end Locator
