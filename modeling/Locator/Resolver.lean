import Locator.Inference
import Locator.Validation
import Locator.Reference

namespace Locator

/-! Resolvers: from a reference text to a typed reference.

A resolver holds the settings of its inference and the formats it knows at all. Five
resolvers serve the five demands: the generic one knows every format, takes the stream
tokens as `binpb` messages and `.proto` paths as proto files, and falls back to a module
or a directory; the message resolver knows the message formats and reads the stream tokens
and paths without a known extension in its configured encoding; the source resolver knows
source trees and falls back to a directory; the module resolver takes every path as a
module; the source-or-module resolver is the generic one without messages.

Resolving a text:

1. the allowed formats are narrowed to those the resolver knows, in the caller's order;
2. the text is read as a written reference, and its format inferred when not given;
3. the reference is checked against the registry and the allowed formats, and a debug
   note records its written form;
4. for a resource, it is built, and a deprecated format name adds a warning;
5. for a reference, the resource is mapped to the family demanded.

The message resolver's encoding is the configured name if non-empty, else the environment's
if non-empty, else `binpb`; an unknown name is a bad setting.
-/

/-- A resolver: its inference settings and the formats it knows. -/
structure Resolver where
  inference : Inference
  known : List String
deriving Repr

/-- The encoding a message resolver assumes: the configured name, else the environment's,
else `binpb`, empty names counting as absent. -/
def configuredEncoding (given environment : Option String) : Except Error Encoding :=
  let present := fun (name : Option String) => name.filter fun text => !text.isEmpty
  match (present given).or (present environment) with
  | none => pure .binpb
  | some name =>
    match Encoding.ofName? name with
    | some encoding => pure encoding
    | none => throw (.unknownEncoding name)

namespace Resolver

/-- The resolver for every kind of reference. -/
def generic : Resolver :=
  ⟨⟨Format.allNames, some "binpb", true, .moduleOrDirectory, false⟩, Format.allNames⟩

/-- The resolver for single messages, reading streams and bare paths in `encoding`. -/
def message (encoding : Encoding) : Resolver :=
  ⟨⟨Format.messageNames, some encoding.format, false, .streamDefault, false⟩, Format.messageNames⟩

/-- The resolver for source trees. -/
def source : Resolver :=
  ⟨⟨Format.sourceNames, none, false, .directory, false⟩, Format.sourceNames⟩

/-- The resolver for modules. -/
def module : Resolver :=
  ⟨⟨Format.moduleNames, none, false, .directory, true⟩, Format.moduleNames⟩

/-- The resolver for source trees, modules and proto files. -/
def sourceOrModule : Resolver :=
  ⟨⟨Format.sourceOrModuleNames, none, true, .moduleOrDirectory, false⟩,
    Format.sourceOrModuleNames⟩

/-- The resolver that serves a demand, a message resolver reading in `encoding`. -/
def forDemand (encoding : Encoding) : Demand → Resolver
  | .any => generic
  | .message => message encoding
  | .source => source
  | .module => module
  | .sourceOrModule => sourceOrModule

/-- The resolver that serves a demand, configured by an encoding name and the
environment's; only the message resolver reads them. -/
def configure (demand : Demand) (given environment : Option String) : Except Error Resolver :=
  match demand with
  | .message => message <$> configuredEncoding given environment
  | demand => pure (forDemand .binpb demand)

/-- The checked written reference of a text, with its registry entry. -/
def prepare (resolver : Resolver) (host : Host) (value : String) (allowed : List String) :
    Logged (Spec × Format) := do
  let allowed := allowed.filter resolver.known.contains
  let spec ← Logged.lift (Spec.split value)
  let spec ← if spec.format.isNone then spec.infer resolver.inference host else pure spec
  let (spec, format) ← Logged.lift (spec.validate allowed)
  Logged.note .debug s!"resolved {Text.quote value} to {spec.render}"
  return (spec, format)

/-- The checked written reference of a text. -/
def spec (resolver : Resolver) (host : Host) (value : String) (allowed : List String) :
    Logged Spec :=
  Prod.fst <$> resolver.prepare host value allowed

/-- The typed resource of a text; a deprecated format name adds a warning. -/
def resource (resolver : Resolver) (host : Host) (value : String) (allowed : List String) :
    Logged Resource := do
  let (spec, format) ← resolver.prepare host value allowed
  let resource ← Logged.lift (Resource.build spec format)
  if let some advisory := Format.advisory? resource.format then
    Logged.note .warning advisory
  return resource

/-- The typed reference of a text in the family demanded. -/
def reference (resolver : Resolver) (host : Host) (demand : Demand) (value : String) :
    Logged Reference := do
  let resource ← resolver.resource host value demand.formats
  Logged.lift (Reference.ofResource demand demand.formats resource)

end Resolver

end Locator
