import Locator.Host
import Locator.Text.Pieces
import Locator.Text.Quoted

namespace Locator

/-! A filesystem given by its directories and files.

A `Disk` lists absolute paths, as component lists, of its directories and of its other
files, and names the working directory against which relative paths resolve. The root is
always a directory. `Disk.status` walks a path component by component the way the system
does, with no links:

* a text holding a NUL character is refused before the walk (`embedded null byte`);
* a path of 4096 bytes or more, or a component of more than 255 bytes met on the way, is
  too long (error 36);
* an empty component and `.` stay where they are, `..` goes up (the root is its own parent);
* every component after the first must be looked up in a directory, else the walk fails
  with error 20, `Not a directory`; an absent component ends it as missing.

`Disk.ofListing` builds the working directory of a request, `/tmp/scratch`, with the listed
directories (and their parents) and files (and their parents) inside it, in a system tree
that holds the usual top-level directories and the device files under `/dev`.
-/

/-- A filesystem without links: its directories, its other files and a working directory. -/
structure Disk where
  directories : List (List String)
  files : List (List String)
  workingDirectory : List String

namespace Disk

/-- Whether the components name a directory; the root always does. -/
def isDirectoryAt (disk : Disk) (place : List String) : Bool :=
  place.isEmpty || disk.directories.contains place

/-- Whether the components name a file that is not a directory. -/
def isFileAt (disk : Disk) (place : List String) : Bool :=
  !disk.isDirectoryAt place && disk.files.contains place

/-- The longest component name, in bytes. -/
def nameMax : Nat := 255

/-- The longest path text, in bytes, is one less than this. -/
def pathMax : Nat := 4096

/-- The reason for a failed walk: the error number and words, then the path quoted. -/
def failure (number : Nat) (words path : String) : Status :=
  .failed s!"[Errno {number}] {words}: {Text.quote path}"

/-- Walks the components `parts` from `here`, which exists, for the path text `path`. -/
def walk (disk : Disk) (path : String) (here : List String) : List String → Status
  | [] => if disk.isDirectoryAt here then .directory else .present
  | part :: rest =>
    if !disk.isDirectoryAt here then failure 20 "Not a directory" path
    else if part = "" ∨ part = "." then disk.walk path here rest
    else if part = ".." then disk.walk path here.dropLast rest
    else if nameMax < part.utf8ByteSize then failure 36 "File name too long" path
    else
      let next := here ++ [part]
      if disk.isDirectoryAt next || disk.isFileAt next then disk.walk path next rest
      else .missing

/-- What a status query on a path reports. -/
def status (disk : Disk) (path : String) : Status :=
  if path.contains (Char.ofNat 0) then .failed "embedded null byte"
  else if pathMax ≤ path.utf8ByteSize then failure 36 "File name too long" path
  else if path.isEmpty then .missing
  else
    let start := if path.startsWith "/" then [] else disk.workingDirectory
    disk.walk path start (Text.pieces '/' path)

/-- The host that answers from this disk. -/
def host (disk : Disk) : Host :=
  Host.ofStatus disk.status

/-- The components of a listed relative path, without empty ones and `.`. -/
def components (path : String) : List String :=
  (Text.pieces '/' path).filter fun part => part != "" && part != "."

/-- Every non-empty beginning of a list of components, shortest first. -/
def prefixes (parts : List String) : List (List String) :=
  (List.range parts.length).map fun n => parts.take (n + 1)

/-- The working directory of a request. -/
def scratch : List String := ["tmp", "scratch"]

/-- The top-level directories of the system tree. -/
def systemDirectories : List (List String) :=
  (["bin", "boot", "dev", "etc", "home", "lib", "media", "mnt", "opt", "proc", "root", "run",
    "sbin", "srv", "sys", "tmp", "usr", "var"].map fun name => [name]) ++
  [["dev", "shm"], ["dev", "pts"], ["usr", "bin"], ["usr", "lib"], ["usr", "local"],
    ["usr", "share"], ["var", "tmp"], ["var", "log"]]

/-- The files of the system tree that are not directories. -/
def systemFiles : List (List String) :=
  (["null", "zero", "random", "urandom", "stdin", "stdout", "stderr", "tty", "full"].map
    fun name => ["dev", name]) ++
  (["passwd", "group", "hosts", "hostname", "resolv.conf", "os-release", "shadow"].map
    fun name => ["etc", name])

/-- A working directory holding the listed directories and files, in the system tree. -/
def ofListing (directories files : List String) : Disk :=
  let inside := fun (path : String) => scratch ++ components path
  let made := directories.flatMap fun path => prefixes (inside path)
  let parents := files.flatMap fun path => prefixes (inside path).dropLast
  { directories := prefixes scratch ++ systemDirectories ++ made ++ parents
    files := systemFiles ++ files.map inside
    workingDirectory := scratch }

end Disk

end Locator
