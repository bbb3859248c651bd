import Locator.Error

namespace Locator

/-! Module coordinates: `remote/owner/repository[:revision]`.

A coordinate has exactly three slash-separated parts. The last may carry a revision after
its first colon; the revision is non-empty and holds no further colon. The remote is an
ASCII letter or digit followed by letters, digits, dots and dashes, optionally followed by
a colon and ASCII digits; the owner and the repository are an ASCII letter or digit
followed by letters, digits, dots, underscores and dashes. Each of the three may end in
one line feed, which the pattern's end of text also admits.

`Coordinate.parse` refuses a text at the first fault in this order: empty, not three
parts, an empty revision, a colon in the revision, then the remote, the owner and the
repository. `Coordinate.render` writes the parts back, with the revision when non-empty.
-/

/-- A module coordinate. -/
structure Coordinate where
  remote : String
  owner : String
  repository : String
  revision : Option String
deriving DecidableEq, Repr

namespace Coordinate

/-- Whether a character is an ASCII letter or digit. -/
def isAlnum (c : Char) : Bool :=
  ('a' ≤ c && c ≤ 'z') || ('A' ≤ c && c ≤ 'Z') || ('0' ≤ c && c ≤ '9')

/-- Whether a character may follow the first one of an owner or a repository. -/
def isPartChar (c : Char) : Bool :=
  isAlnum c || c == '.' || c == '_' || c == '-'

/-- Whether a character may follow the first one of a remote host. -/
def isHostChar (c : Char) : Bool :=
  isAlnum c || c == '.' || c == '-'

/-- The characters without one final line feed, which the end of text admits. -/
def withoutFinalNewline (cs : List Char) : List Char :=
  if cs.getLast? = some '\n' then cs.dropLast else cs

/-- Whether characters form a letter or digit followed by characters of the class. -/
def isWord (rest : Char → Bool) : List Char → Bool
  | c :: cs => isAlnum c && cs.all rest
  | [] => false

/-- Whether a text is a valid owner or repository. -/
def isPart (s : String) : Bool :=
  isWord isPartChar (withoutFinalNewline s.toList)

/-- Whether characters are a host, optionally followed by a colon and ASCII digits. -/
def isHostAddress (cs : List Char) : Bool :=
  match Text.cutFirstChars ':' cs with
  | none => isWord isHostChar cs
  | some (host, digits) =>
    isWord isHostChar host && !digits.isEmpty && digits.all fun c => '0' ≤ c && c ≤ '9'

/-- Whether a text is a valid remote. -/
def isRemote (s : String) : Bool :=
  isHostAddress (withoutFinalNewline s.toList)

/-- The repository part and the revision, cut at the first colon of the last part. -/
def splitRevision (value last : String) : Except Error (String × Option String) :=
  match Text.cutFirst ':' last with
  | none => pure (last, none)
  | some (repository, revision) =>
    if revision.isEmpty then throw (.emptyRevision value)
    else if revision.contains ':' || revision.contains '/' then throw (.badRevision value)
    else pure (repository, some revision)

/-- Reads a module coordinate. -/
def parse (value : String) : Except Error Coordinate := do
  if value.isEmpty then throw .emptyCoordinate
  match Text.pieces '/' value with
  | [remote, owner, last] =>
    let (repository, revision) ← splitRevision value last
    unless isRemote remote do throw (.badRemote remote value)
    unless isPart owner do throw (.badOwner owner value)
    unless isPart repository do throw (.badRepository repository value)
    pure { remote, owner, repository, revision }
  | _ => throw (.coordinateShape value)

/-- Whether a text reads as a module coordinate. -/
def isCoordinate (value : String) : Bool :=
  (parse value).toBool

/-- Writes a coordinate back, with the revision when it is non-empty. -/
def render (coordinate : Coordinate) : String :=
  let base := coordinate.remote ++ "/" ++ coordinate.owner ++ "/" ++ coordinate.repository
  match coordinate.revision with
  | some revision => if revision.isEmpty then base else base ++ ":" ++ revision
  | none => base

end Coordinate

end Locator
