import Locator.Text.Pieces

namespace Locator.Path

/-! Slash-separated paths, read by their spelling alone.

`normalize` turns a path into the shortest spelling of the same place when no component
is a link:

* empty components and `.` are dropped;
* `..` cancels the component before it, unless that one is itself `..`; right after the
  root it is dropped, and at the start of a relative path it is kept;
* a path that starts with exactly two slashes keeps both, one that starts with one or with
  three or more gets one;
* a path with nothing left is `.`.

`baseName` is the part after the last slash and `extension` the end of the base name from
its last dot on (a leading dot counts, so `.tar` is its own extension). The four stream
tokens stand for standard input, standard output and the null device, not for files.
-/

/-- One step of normalisation: the kept components, the last one first, after `part`. -/
def push (rooted : Bool) (kept : List String) (part : String) : List String :=
  if part = "" ∨ part = "." then kept
  else if part ≠ ".." then part :: kept
  else match kept with
    | [] => if rooted then [] else [".."]
    | top :: rest => if top = ".." then ".." :: top :: rest else rest

/-- How many slashes lead the normal form of a path. -/
def leadingSlashes (path : String) : Nat :=
  match path.toList with
  | '/' :: '/' :: '/' :: _ => 1
  | '/' :: '/' :: _ => 2
  | '/' :: _ => 1
  | _ => 0

/-- The normal form of a path. -/
def normalize (path : String) : String :=
  let lead := leadingSlashes path
  let kept := ((Text.pieces '/' path).foldl (push (decide (0 < lead))) []).reverse
  let body := String.ofList (List.replicate lead '/') ++ Text.joinWith "/" kept
  if body = "" then "." else body

/-- Whether a path starts at the root. -/
def isAbsolute (path : String) : Bool :=
  path.startsWith "/"

/-- The last component of a path: the text after its last slash. -/
def baseName (path : String) : String :=
  ((Text.pieces '/' path).getLast?).getD ""

/-- The extension of a file name: from its last dot to the end, or empty when it has none. -/
def nameExtension (name : String) : String :=
  match Text.pieces '.' name with
  | [] | [_] => ""
  | parts => "." ++ (parts.getLast?).getD ""

/-- The extension of the last component of a path. -/
def extension (path : String) : String :=
  nameExtension (baseName path)

/-- The paths that stand for standard input, standard output or the null device. -/
def streamTokens : List String := ["-", "/dev/null", "/dev/stdin", "/dev/stdout"]

/-- Whether a path is a stream token. -/
def isStreamToken (path : String) : Bool :=
  streamTokens.contains path

end Locator.Path
