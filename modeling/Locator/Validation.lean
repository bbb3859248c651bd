import Locator.Spec

namespace Locator

/-! Checking a written reference against the registry and the formats a caller allows.

`Spec.validate` finds the format in the registry (an unknown or missing name is malformed),
then refuses by policy, in this order, a format outside the allowed list, a compression the
format does not take, and the first option the format does not take. A reference without a
compression gets the format's default, or none. Every refusal by policy reports the allowed
list exactly as the caller gave it.
-/

namespace Spec

/-- The registry entry of the reference's format. -/
def format? (spec : Spec) : Except Error Format :=
  match spec.format.bind Format.find? with
  | some format => pure format
  | none => throw (.unknownFormat spec.format)

/-- The reference with its compression settled, and its format, if the caller allows them. -/
def validate (spec : Spec) (allowed : List String) : Except Error (Spec × Format) := do
  let format ← spec.format?
  unless allowed.contains format.name do
    throw (.formatNotAllowed format.name format.kind allowed)
  let compression := spec.compression.getD (format.defaultCompression.getD .plain)
  unless format.compressions.contains compression do
    throw (.compressionNotAllowed compression format.name format.kind allowed)
  if let some (key, _) := spec.options.find? fun entry => !format.accepts entry.1 then
    throw (.optionNotAllowed key format.name format.kind allowed)
  return ({ spec with compression := some compression }, format)

end Spec

end Locator
