import Locator.Format
import Locator.Text.Quoted
import Locator.Text.Pieces

namespace Locator

/-! Why a reference is refused.

Each constructor is one cause. `Error.message` words it, showing user text quoted as
`Text.quote` writes it, and `Error.category` sorts the causes into five families: a
malformed reference, a path whose format cannot be inferred, a format, compression or
option that the caller does not allow, a broken internal expectation, and a bad setting.
A refusal by policy also carries the format, its kind and the allowed formats.
-/

/-- The five families of refusal. -/
inductive Category where
  | malformed
  | inference
  | policy
  | internal
  | configuration
deriving DecidableEq, Repr

/-- The facts a refusal by policy reports besides its message. -/
structure Policy where
  format : String
  kind : Kind
  allowed : List String
deriving DecidableEq, Repr

/-- One cause for refusing a reference. -/
inductive Error where
  | emptyReference
  | manyHashes (value : String)
  | emptyPath (value : String)
  | emptyOptions (value : String)
  | emptyOption (options : String)
  | emptyKey (item : String)
  | unknownKey (key : String)
  | duplicateKey (key : OptionKey)
  | missingValue (key : OptionKey)
  | emptyValue (key : OptionKey)
  | notSwitch (key : OptionKey) (value : String)
  | unknownCompression (value : String)
  | emptyCoordinate
  | coordinateShape (value : String)
  | emptyRevision (value : String)
  | badRevision (value : String)
  | badRemote (remote value : String)
  | badOwner (owner value : String)
  | badRepository (repository value : String)
  | unknownFormat (name : Option String)
  | streamPath (path format : String)
  | branchAndTag
  | tagAndRef
  | notInteger (key : OptionKey) (value : String)
  | negative (key : OptionKey) (value : Int)
  | zeroDepth
  | absoluteSubdir (value : String)
  | escapingSubdir (value : String)
  | unknownUnderCompression (path extension : String)
  | unreadableProtoFile (path reason : String)
  | directoryProtoFile (path : String)
  | emptyClassification
  | formatNotAllowed (format : String) (kind : Kind) (allowed : List String)
  | compressionNotAllowed (compression : Compression) (format : String) (kind : Kind)
      (allowed : List String)
  | optionNotAllowed (key : OptionKey) (format : String) (kind : Kind) (allowed : List String)
  | kindMismatch (kind : Kind) (format : String) (demand : Demand) (allowed : List String)
  | notMessageFormat (format : String)
  | missingArchiveType (format : String)
  | unknownEncoding (value : String)
deriving DecidableEq, Repr

namespace Error

/-- The family of a cause. -/
def category : Error → Category
  | .unknownUnderCompression .. | .unreadableProtoFile .. | .directoryProtoFile ..
  | .emptyClassification => .inference
  | .formatNotAllowed .. | .compressionNotAllowed .. | .optionNotAllowed ..
  | .kindMismatch .. => .policy
  | .notMessageFormat .. | .missingArchiveType .. => .internal
  | .unknownEncoding .. => .configuration
  | _ => .malformed

/-- The format, kind and allowed formats of a refusal by policy. -/
def policy? : Error → Option Policy
  | .formatNotAllowed format kind allowed => some ⟨format, kind, allowed⟩
  | .compressionNotAllowed _ format kind allowed => some ⟨format, kind, allowed⟩
  | .optionNotAllowed _ format kind allowed => some ⟨format, kind, allowed⟩
  | .kindMismatch kind format _ allowed => some ⟨format, kind, allowed⟩
  | _ => none

/-- A list of format names as messages show it. -/
def listing (names : List String) : String :=
  Text.joinWith ", " names

open Text in
/-- The words of a cause. -/
def message : Error → String
  | .emptyReference => "reference cannot be empty"
  | .manyHashes value => s!"{quote value} has multiple #s which is invalid"
  | .emptyPath value => s!"{quote value} has an empty path"
  | .emptyOptions value => s!"{quote value} has an empty options string after #"
  | .emptyOption options => s!"empty option in {quote options}"
  | .emptyKey item => s!"option {quote item} has an empty key"
  | .unknownKey key => s!"unknown option key: {quote key}"
  | .duplicateKey key => s!"duplicate option key: {quote key.name}"
  | .missingValue key => s!"option {quote key.name} requires a value"
  | .emptyValue key => s!"option {quote key.name} has an empty value"
  | .notSwitch key value => s!"option {quote key.name} must be true or false, got {quote value}"
  | .unknownCompression value =>
    s!"unknown compression: {quote value} (expected one of: none, gzip, zstd)"
  | .emptyCoordinate => "module reference cannot be empty"
  | .coordinateShape value =>
    s!"module reference must be remote/owner/repository[:reference]: {quote value}"
  | .emptyRevision value => s!"module reference has empty reference: {quote value}"
  | .badRevision value => s!"invalid module reference: {quote value}"
  | .badRemote remote value => s!"invalid module remote {quote remote} in {quote value}"
  | .badOwner owner value => s!"invalid module owner {quote owner} in {quote value}"
  | .badRepository repository value =>
    s!"invalid module repository {quote repository} in {quote value}"
  | .unknownFormat name =>
    let shown := match name with
      | some name => quote name
      | none => "None"
    let known := listing Format.allNames
    s!"unknown format: {shown} (known formats: {known})"
  | .streamPath path format => s!"{quote path} cannot be used with format {quote format}"
  | .branchAndTag => "cannot specify both branch and tag"
  | .tagAndRef => "cannot specify both tag and ref"
  | .notInteger key value => s!"{key.name} must be an integer, got {quote value}"
  | .negative key value => s!"{key.name} must be >= 0, got {value}"
  | .zeroDepth => "depth must be > 0"
  | .absoluteSubdir value => s!"subdir must be relative: {quote value}"
  | .escapingSubdir value => s!"subdir cannot leave the root: {quote value}"
  | .unknownUnderCompression path extension =>
    s!"path {quote path} had {extension} extension with unknown format"
  | .unreadableProtoFile path reason =>
    s!"path provided is not a valid proto file: {quote path}, {reason}"
  | .directoryProtoFile path =>
    s!"path provided is not a valid proto file: a directory named {path} already exists"
  | .emptyClassification => "cannot classify an empty path"
  | .formatNotAllowed format kind allowed =>
    let names := listing allowed
    s!"format {quote format} ({kind.name}) is not allowed here (allowed formats: {names})"
  | .compressionNotAllowed compression format _ _ =>
    s!"compression {quote compression.name} is not allowed for format {quote format}"
  | .optionNotAllowed key format _ _ =>
    s!"option {quote key.name} is not allowed for format {quote format}"
  | .kindMismatch kind format demand allowed =>
    let names := listing allowed
    s!"{kind.name} reference (format {quote format}) cannot be used as a {demand.label} " ++
      s!"reference (allowed formats: {names})"
  | .notMessageFormat format => s!"invalid format for message: {quote format}"
  | .missingArchiveType format => s!"archive format {quote format} has no archive type"
  | .unknownEncoding value =>
    s!"unknown message encoding: {quote value} (expected one of: binpb, json, txtpb, yaml)"

end Error

end Locator
