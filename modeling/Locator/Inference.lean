import Locator.Spec
import Locator.Coordinate
import Locator.Host
import Locator.Log
import Locator.Path

namespace Locator

/-! Inferring a format from a path.

The settings of an inference name the formats its extension table may produce, the format
of the stream tokens (if they are streams at all), whether a `.proto` path is a proto file,
what becomes of a path with no known extension, and whether every path is a module.

`Inference.guess` decides, in this order:

1. a settings that takes every path as a module gives `mod`;
2. a stream token gives the stream format, when the settings has one;
3. a last extension `.gz` or `.zst` gives that compression, and the format comes from the
   extension under it in the same base name, which must be in the table, allowed, and not
   itself compressed (`.tgz`), else the path is refused;
4. a last extension in the table gives its format and bundled compression, when allowed;
5. `.proto`, when the settings takes proto files, gives `protofile` unless the path names
   a directory or cannot be queried;
6. otherwise the fallback: a module coordinate that is no existing directory gives `mod`
   and any other path `dir`; or the stream format when it is non-empty; or `dir`.
-/

/-- What becomes of a path with no known extension. -/
inductive Fallback where
  | moduleOrDirectory
  | directory
  | streamDefault
deriving DecidableEq, Repr

/-- The settings of an inference. -/
structure Inference where
  allowed : List String
  streamDefault : Option String
  acceptsProtoFile : Bool
  fallback : Fallback
  alwaysModule : Bool
deriving Repr

/-- The format and bundled compression of an extension in the table. -/
def extensionFormat? : String → Option (String × Option Compression)
  | ".bin" => some ("binpb", none)
  | ".binpb" => some ("binpb", none)
  | ".json" => some ("json", none)
  | ".txtpb" => some ("txtpb", none)
  | ".yaml" => some ("yaml", none)
  | ".tar" => some ("tar", none)
  | ".zip" => some ("zip", none)
  | ".tgz" => some ("tar", some .gzip)
  | ".git" => some ("git", none)
  | _ => none

/-- The compression that a last extension stands for. -/
def extensionCompression? : String → Option Compression
  | ".gz" => some .gzip
  | ".zst" => some .zstd
  | _ => none

/-- The extension under the last one, in the same base name. -/
def innerExtension (path extension : String) : String :=
  let base := Path.baseName path
  Path.nameExtension (String.ofList (base.toList.take (base.length - extension.length)))

/-- Decides between a module and a directory for a path with no known extension. -/
def assumeModuleOrDirectory (host : Host) (path : String) : Logged String := do
  if path.isEmpty then throw .emptyClassification
  if !Coordinate.isCoordinate path then return "dir"
  if host.isDirectory path then
    Logged.note .debug s!"{Text.quote path} parses as a module but is a directory on disk"
    return "dir"
  return "mod"

/-- Refuses a `.proto` path that names a directory or whose status cannot be queried. -/
def checkProtoFile (host : Host) (path : String) : Except Error Unit :=
  match host.status path with
  | .failed reason => throw (.unreadableProtoFile path reason)
  | .directory => throw (.directoryProtoFile path)
  | .missing | .present => pure ()

namespace Inference

/-- The table entry of an extension, if its format is allowed and, unless `bundled`, it
bundles no compression. -/
def lookup (settings : Inference) (extension : String) (bundled : Bool) :
    Option (String × Option Compression) :=
  match extensionFormat? extension with
  | none => none
  | some (format, compression) =>
    if !settings.allowed.contains format then none
    else if compression.isSome && !bundled then none
    else some (format, compression)

/-- The format for a path that nothing else classifies. -/
def fallbackFormat (settings : Inference) (host : Host) (path : String) : Logged String :=
  match settings.fallback with
  | .moduleOrDirectory => assumeModuleOrDirectory host path
  | .streamDefault =>
    match settings.streamDefault with
    | some format => pure (if format.isEmpty then "dir" else format)
    | none => pure "dir"
  | .directory => pure "dir"

/-- The format and compression of a path by its extensions, for a path that is no stream
token of the settings: a compressed extension with the one under it, an extension of the
table, a proto file, or the fallback. -/
def byExtension (settings : Inference) (host : Host) (path : String) :
    Logged (String × Option Compression) := do
  let extension := Path.extension path
  if let some compression := extensionCompression? extension then
    match settings.lookup (innerExtension path extension) false with
    | some (format, _) => return (format, some compression)
    | none => throw (.unknownUnderCompression path extension)
  if let some found := settings.lookup extension true then return found
  if extension == ".proto" && settings.acceptsProtoFile then
    Logged.lift (checkProtoFile host path)
    return ("protofile", none)
  return (← settings.fallbackFormat host path, none)

/-- The inferred format of a path, and the compression its extensions give. -/
def guess (settings : Inference) (host : Host) (path : String) :
    Logged (String × Option Compression) :=
  if settings.alwaysModule then pure ("mod", none)
  else match settings.streamDefault with
    | some format =>
      if Path.isStreamToken path then pure (format, none) else settings.byExtension host path
    | none => settings.byExtension host path

end Inference

/-- The words a debug note uses for an inferred compression. -/
def compressionNote : Option Compression → String
  | some compression => compression.name
  | none => "unset"

/-- A written reference with its format inferred from its path; a compression given
explicitly wins over an inferred one. -/
def Spec.infer (spec : Spec) (settings : Inference) (host : Host) : Logged Spec := do
  let (format, compression) ← settings.guess host spec.path
  Logged.note .debug
    s!"inferred format {format} (compression {compressionNote compression}) for {Text.quote spec.path}"
  return { spec with format := some format, compression := spec.compression.or compression }

end Locator
