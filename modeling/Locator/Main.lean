import Locator.Cli

open Locator

/-! The program's entry point: the command line against the real filesystem and
environment. The path of every word that reads as a reference is looked up once, before the
run, and the run's host answers from those lookups. -/

/-- Whether an existing path is a directory: its entry `.` resolves. -/
def probeDirectory (path : String) : IO Status := do
  try
    discard <| IO.FS.realPath (path ++ "/.")
    return .directory
  catch _ =>
    return .present

/-- What the filesystem reports on one path. -/
def probe (path : String) : IO Status := do
  if path.contains (Char.ofNat 0) then return .failed "embedded null byte"
  let found ← (IO.FS.realPath path *> pure none).catchExceptions fun error => pure (some error)
  match found with
  | none => probeDirectory path
  | some (.noFileOrDirectory ..) => return .missing
  | some error => return .failed (toString error)

def main (args : List String) : IO UInt32 := do
  let environment ← IO.getEnv "PROTOREF_DEFAULT_MESSAGE_ENCODING"
  let paths := args.filterMap fun word => (Spec.split word).toOption.map Spec.path
  let answers ← paths.mapM fun path => return (path, ← probe path)
  let status := fun path => (answers.lookup path).getD .missing
  let outcome := Cli.run "protoref" args environment (Host.ofStatus status)
  IO.print outcome.stdout
  IO.eprint outcome.stderr
  return outcome.exitCode.toUInt32
