namespace Locator

/-! What resolution may learn from the filesystem.

Two questions reach the filesystem, and nothing else does. When a `.proto` path must not
name a directory, resolution asks for the status of the path: missing, present and not a
directory, a directory, or a failure with the reason the system gives. When a path reads as
a module coordinate, resolution asks whether a directory of that name exists, which is
false whenever the status query fails. A `Host` answers both questions, so every result
about resolution can range over all hosts.
-/

/-- What a status query on a path reports. -/
inductive Status where
  | missing
  | present
  | directory
  | failed (reason : String)
deriving DecidableEq, Repr

/-- The answers of a filesystem to the two questions resolution asks. -/
structure Host where
  status : String → Status
  isDirectory : String → Bool

namespace Host

/-- A host whose directory answers follow its status answers. -/
def ofStatus (status : String → Status) : Host where
  status := status
  isDirectory path := status path == .directory

end Host

end Locator
