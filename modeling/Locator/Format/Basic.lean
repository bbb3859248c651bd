namespace Locator

/-! The words of the format registry.

A format has a kind (what sort of thing it points at), accepts some compressions and
option keys, may unpack as an archive of some type, and, for a single message, has an
encoding. Each of these is a closed list, written and read by the lowercase names below.
-/

/-- What sort of thing a format points at. -/
inductive Kind where
  | single
  | archive
  | git
  | directory
  | module
  | protoFile
deriving DecidableEq, Repr

namespace Kind

/-- The written name of a kind. -/
def name : Kind → String
  | .single => "single"
  | .archive => "archive"
  | .git => "git"
  | .directory => "dir"
  | .module => "module"
  | .protoFile => "proto_file"

/-- Whether the kind is a tree of source files: an archive, a directory or a git repository. -/
def isTree : Kind → Bool
  | .archive | .git | .directory => true
  | _ => false

end Kind

/-- How the bytes behind a path are compressed. -/
inductive Compression where
  | plain
  | gzip
  | zstd
deriving DecidableEq, Repr

namespace Compression

/-- The written name of a compression. -/
def name : Compression → String
  | .plain => "none"
  | .gzip => "gzip"
  | .zstd => "zstd"

/-- The compression with the given name. -/
def ofName? : String → Option Compression
  | "none" => some .plain
  | "gzip" => some .gzip
  | "zstd" => some .zstd
  | _ => none

end Compression

/-- How an archive packs its files. -/
inductive ArchiveType where
  | tar
  | zip
deriving DecidableEq, Repr

/-- The written name of an archive type. -/
def ArchiveType.name : ArchiveType → String
  | .tar => "tar"
  | .zip => "zip"

/-- How a single message is encoded. -/
inductive Encoding where
  | binpb
  | json
  | txtpb
  | yaml
deriving DecidableEq, Repr

namespace Encoding

/-- The written name of an encoding. -/
def name : Encoding → String
  | .binpb => "binpb"
  | .json => "json"
  | .txtpb => "txtpb"
  | .yaml => "yaml"

/-- The encoding with the given name. -/
def ofName? : String → Option Encoding
  | "binpb" => some .binpb
  | "json" => some .json
  | "txtpb" => some .txtpb
  | "yaml" => some .yaml
  | _ => none

/-- Every encoding, in the order messages list them. -/
def all : List Encoding := [.binpb, .json, .txtpb, .yaml]

/-- The format that reads a message of this encoding without compression. -/
def format : Encoding → String
  | .binpb => "binpb"
  | .json => "json"
  | .txtpb => "txtpb"
  | .yaml => "yaml"

end Encoding

/-- The keys that may stand in the options of a reference. -/
inductive OptionKey where
  | format
  | compression
  | branch
  | tag
  | ref
  | depth
  | stripComponents
  | subdir
  | recurseSubmodules
  | includePackageFiles
  | useProtoNames
  | useEnumNumbers
deriving DecidableEq, Repr

namespace OptionKey

/-- The written name of an option key. -/
def name : OptionKey → String
  | .format => "format"
  | .compression => "compression"
  | .branch => "branch"
  | .tag => "tag"
  | .ref => "ref"
  | .depth => "depth"
  | .stripComponents => "strip_components"
  | .subdir => "subdir"
  | .recurseSubmodules => "recurse_submodules"
  | .includePackageFiles => "include_package_files"
  | .useProtoNames => "use_proto_names"
  | .useEnumNumbers => "use_enum_numbers"

/-- The option key with the given name. -/
def ofName? : String → Option OptionKey
  | "format" => some .format
  | "compression" => some .compression
  | "branch" => some .branch
  | "tag" => some .tag
  | "ref" => some .ref
  | "depth" => some .depth
  | "strip_components" => some .stripComponents
  | "subdir" => some .subdir
  | "recurse_submodules" => some .recurseSubmodules
  | "include_package_files" => some .includePackageFiles
  | "use_proto_names" => some .useProtoNames
  | "use_enum_numbers" => some .useEnumNumbers
  | _ => none

/-- Whether the key is a switch: its value is `true` or `false`, and a bare key means `true`. -/
def isSwitch : OptionKey → Bool
  | .recurseSubmodules | .includePackageFiles | .useProtoNames | .useEnumNumbers => true
  | _ => false

end OptionKey

/-- The sort of reference a caller asks for: any reference, or one of four families. -/
inductive Demand where
  | any
  | message
  | source
  | module
  | sourceOrModule
deriving DecidableEq, Repr

/-- How messages name the family a caller asks for. -/
def Demand.label : Demand → String
  | .any => "any"
  | .message => "message"
  | .source => "source"
  | .module => "module"
  | .sourceOrModule => "source or module"

end Locator
