import Locator.Resource
import Locator.Resource.Build

namespace Locator

/-! Typed references: a resource in the form a caller asked for.

A message reference is a single message file with its encoding and the two message
switches; a source reference is a source tree; a module reference a module; a proto file
reference a proto file. `Reference.ofResource` maps a resource to the reference the caller
demands, and refuses by policy a resource of another family, reporting its kind and format
with the allowed formats given. For any reference it maps each resource to its own family.
-/

/-- A single message file, read with an encoding and two switches. -/
structure MessageRef where
  file : SingleFile
  encoding : Encoding
  useProtoNames : Bool
  useEnumNumbers : Bool
deriving DecidableEq, Repr

/-- A resource in the form a caller asked for. -/
inductive Reference where
  | message (message : MessageRef)
  | source (tree : Tree)
  | module (module : ModuleSource)
  | protoFile (file : ProtoFile)
deriving DecidableEq, Repr

namespace Reference

/-- The resource a reference points at. -/
def resource : Reference → Resource
  | .message read => .single read.file
  | .source sources => .tree sources
  | .module named => .module named
  | .protoFile file => .protoFile file

/-- The word that names the family of a reference in its document. -/
def typeName : Reference → String
  | .message _ => "message"
  | .source _ => "source"
  | .module _ => "module"
  | .protoFile _ => "proto_file"

/-- The document of a reference: its family, its resource, and for a message the encoding
and the two switches. -/
def toJson (reference : Reference) : Json :=
  let head := [("ref_type", Json.str reference.typeName), ("parsed", reference.resource.toJson)]
  match reference with
  | .message read =>
    .obj (head ++ [("encoding", .str read.encoding.name),
      ("use_proto_names", .bool read.useProtoNames),
      ("use_enum_numbers", .bool read.useEnumNumbers)])
  | _ => .obj head

end Reference

/-- The encoding of a single-message format; any other format breaks an internal
expectation. -/
def encodingOf (format : String) : Except Error Encoding :=
  match Format.encoding? format with
  | some encoding => pure encoding
  | none => throw (.notMessageFormat format)

/-- The value of a custom option of a message file, `false` when absent. -/
def SingleFile.switch (file : SingleFile) (key : OptionKey) : Except Error Bool :=
  readSwitch key (((file.customOptions.find? fun entry => entry.1 == key.name).map Prod.snd).getD
    "false")

/-- The message reference of a single message file. -/
def MessageRef.ofFile (file : SingleFile) : Except Error MessageRef := do
  let encoding ← encodingOf file.format
  let useProtoNames ← file.switch .useProtoNames
  let useEnumNumbers ← file.switch .useEnumNumbers
  pure ⟨file, encoding, useProtoNames, useEnumNumbers⟩

/-- The formats each demand allows when the caller names none. -/
def Demand.formats : Demand → List String
  | .any => Format.allNames
  | .message => Format.messageNames
  | .source => Format.sourceNames
  | .module => Format.moduleNames
  | .sourceOrModule => Format.sourceOrModuleNames

/-- The reference a caller demands of a resource. -/
def Reference.ofResource (demand : Demand) (allowed : List String) (resource : Resource) :
    Except Error Reference :=
  let mismatch : Except Error Reference :=
    throw (.kindMismatch resource.kind resource.format demand allowed)
  match demand, resource with
  | .any, .single file | .message, .single file => .message <$> MessageRef.ofFile file
  | .any, .tree sources | .sourceOrModule, .tree sources | .source, .tree sources =>
    pure (.source sources)
  | .any, .module named | .sourceOrModule, .module named | .module, .module named =>
    pure (.module named)
  | .any, .protoFile file | .sourceOrModule, .protoFile file => pure (.protoFile file)
  | _, _ => mismatch

end Locator
