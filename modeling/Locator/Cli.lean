import Locator.Resolver
import Locator.Cli.Args
import Locator.Cli.Help

namespace Locator.Cli

/-! The command line.

The program takes the options `-v`/`--verbose` (show debug notes), `--default-encoding`
(the message resolver's encoding), `--version` and `--help`, then a command:

* `resolve VALUE [--as KIND]` resolves `VALUE` with the resolver of `KIND` (`generic`,
  `message`, `source`, `module` or `source-or-module`, by default `generic`) and prints the
  reference's document; a refusal prints `Error:` and its message and exits with 1, a bad
  setting `Error: Invalid configuration:` and its message;
* `formats [--json]` lists the registry, as a table or as a document.

Notes go to the error stream as `LEVEL: text`, debug notes only with `--verbose`. A
command line that does not read exits with 2 after the usage of the command it belongs to,
a hint to its help, and the fault. The help and version options answer before anything
else is checked, in the order given; with no words at all the program shows its help on
the error stream and exits with 2.
-/

/-- What a run of the command line produced: the exit code, the two streams, and the
refusal that escaped as a crash, if any. -/
structure Outcome where
  exitCode : Nat
  stdout : String
  stderr : String
  crash : Option Error

/-- The version line. -/
def versionLine : String := "protoref, version 0.1.0"

/-- The program's options. -/
def programParams : List Param :=
  [⟨"verbose", ["-v", "--verbose"], false⟩, ⟨"default-encoding", ["--default-encoding"], true⟩,
    ⟨"version", ["--version"], false⟩, ⟨"help", ["--help"], false⟩]

/-- The options of `resolve`. -/
def resolveParams : List Param :=
  [⟨"as", ["--as"], true⟩, ⟨"help", ["--help"], false⟩]

/-- The options of `formats`. -/
def formatsParams : List Param :=
  [⟨"json", ["--json"], false⟩, ⟨"help", ["--help"], false⟩]

/-- The kinds `resolve --as` accepts, with the demand each stands for. -/
def kinds : List (String × Demand) :=
  [("generic", .any), ("message", .message), ("source", .source), ("module", .module),
    ("source-or-module", .sourceOrModule)]

/-- The description of the program. -/
def programText : String :=
  "protoref - resolve reference strings into typed references."

/-- The description of `resolve`. -/
def resolveText : String :=
  "Resolve VALUE and print the reference as JSON.\n\n" ++
  "Syntax: path[#key=value[,key=value...]]\n\n" ++
  "Examples:\n" ++
  "    protoref resolve weather.json.gz\n" ++
  "    protoref resolve \"https://github.com/acme/apis.git#tag=v1.0.0,subdir=proto\"\n" ++
  "    protoref resolve buf.build/acme/weather --as module\n" ++
  "    protoref --default-encoding json resolve - --as message"

/-- The description of `formats`. -/
def formatsText : String :=
  "List known formats with their compressions and options."

/-- The help row of the help option. -/
def helpRow : String × String :=
  ("--help", "Show this message and exit.")

/-- The first sentence of a description, or its first words and `...`, within `limit`
characters. -/
def shortHelp (text : String) (limit : Nat) : String :=
  let firstParagraph := Text.joinWith " " ((Text.pieces '\n' text).takeWhile (!·.isEmpty))
  let words := (Text.pieces ' ' firstParagraph).filter (!·.isEmpty)
  let rec go : List String → List String → Nat → String
    | [], taken, _ => Text.joinWith " " taken.reverse
    | word :: rest, taken, total =>
      let total := total + word.length + (if taken.isEmpty then 0 else 1)
      if limit < total then cut (word :: taken) (total + 3)
      else if word.endsWith "." then Text.joinWith " " (word :: taken).reverse
      else if total == limit && !rest.isEmpty then cut (word :: taken) (total + 3)
      else go rest (word :: taken) total
  go words [] 0
where
  /-- Drops words from the end of `taken`, the last first, until the rest and `...` fit. -/
  cut (taken : List String) (total : Nat) : String :=
    let rec drop : List String → Nat → String
      | [], _ => "..."
      | [_], _ => "..."
      | word :: rest, total =>
        let total := total - (word.length + 1)
        if total ≤ limit then Text.joinWith " " rest.reverse ++ "..." else drop rest total
    drop taken total

/-- The program's help screen. -/
def programHelp (prog : String) : String :=
  let commands := [("formats", formatsText), ("resolve", resolveText)]
  let limit := screenWidth - 6 - 7
  screen (usageLine prog "[OPTIONS] COMMAND [ARGS]...") programText
    [("Options", [("-v, --verbose", "Log inference decisions"),
        ("--default-encoding TEXT",
          "Encoding for stdin and extensionless messages " ++
            "(overrides $PROTOREF_DEFAULT_MESSAGE_ENCODING)"),
        ("--version", "Show the version and exit."), helpRow]),
      ("Commands", commands.map fun (name, text) => (name, shortHelp text limit))]

/-- The help screen of `resolve`. -/
def resolveHelp (path : String) : String :=
  let choices := Text.joinWith "|" (kinds.map Prod.fst)
  screen (usageLine path "[OPTIONS] VALUE") resolveText
    [("Options", [("--as [" ++ choices ++ "]",
        "Which kind of reference the caller expects (default: generic)"), helpRow])]

/-- The help screen of `formats`. -/
def formatsHelp (path : String) : String :=
  screen (usageLine path "[OPTIONS]") formatsText
    [("Options", [("--json", "Output as JSON"), helpRow])]

/-- A run that ends normally. -/
def finish (exitCode : Nat) (stdout stderr : String) : Outcome :=
  ⟨exitCode, stdout, stderr, none⟩

/-- A command line that does not read: the usage, a hint to the help, the fault. -/
def misuse (usage path : String) (fault : Fault) : Outcome :=
  finish 2 "" (usage ++ "\nTry '" ++ path ++ " --help' for help.\n\nError: " ++ fault.message ++
    "\n")

/-- The notes shown on the error stream, debug notes only when `verbose`. -/
def noteLines (verbose : Bool) (notes : List Note) : String :=
  String.join ((notes.filter fun note => verbose || note.level == .warning).map
    fun note => note.level.name ++ ": " ++ note.text ++ "\n")

/-- A text padded with spaces to `width` characters. -/
def padded (width : Nat) (text : String) : String :=
  text ++ spaces (width - text.length)

/-- The written names of some option keys, in alphabetical order. -/
def sortedKeys (keys : List OptionKey) : List String :=
  (keys.map OptionKey.name).mergeSort fun a b => decide (a ≤ b)

/-- The listing of the registry, one line per format. -/
def formatLines : String :=
  String.join (Format.registry.map fun format =>
    let options := sortedKeys (format.optionKeys ++ format.customKeys)
    let line := padded 10 format.name ++ " " ++ padded 11 format.kind.name ++ " " ++
      Text.joinWith "," (format.compressions.map Compression.name)
    let line := if options.isEmpty then line else line ++ "  [" ++ Text.joinWith "," options ++ "]"
    let line := if (Format.replacement? format.name).isSome then line ++ "  (deprecated)" else line
    line ++ "\n")

/-- The registry as a document. -/
def formatsDocument : Json :=
  .arr (Format.registry.map fun format =>
    .obj [("name", .str format.name), ("kind", .str format.kind.name),
      ("compressions", .arr (format.compressions.map fun compression => .str compression.name)),
      ("options", .arr ((sortedKeys (format.optionKeys ++ format.customKeys)).map Json.str)),
      ("deprecated", .bool (Format.replacement? format.name).isSome)])

/-- Runs `formats` on the words after it. -/
def runFormats (path : String) (words : List String) : Outcome :=
  let usage := usageLine path "[OPTIONS]"
  match read formatsParams true words with
  | .error fault => misuse usage path fault
  | .ok given =>
    if given.has "help" then finish 0 (formatsHelp path) ""
    else if !given.arguments.isEmpty then misuse usage path (.extraArguments given.arguments)
    else if given.has "json" then finish 0 (formatsDocument.render ++ "\n") ""
    else finish 0 formatLines ""

/-- Resolves a value for the command line: the document, or `Error:` and the message. -/
def resolveValue (host : Host) (verbose : Bool) (encoding environment : Option String)
    (demand : Demand) (value : String) : Outcome :=
  match Resolver.configure demand encoding environment with
  | .error error => finish 1 "" ("Error: Invalid configuration: " ++ error.message ++ "\n")
  | .ok resolver =>
    let run := resolver.reference host demand value
    let notes := noteLines verbose run.notes
    match run.result with
    | .ok reference => finish 0 (reference.toJson.render ++ "\n") notes
    | .error error =>
      match error.category with
      | .configuration =>
        finish 1 "" (notes ++ "Error: Invalid configuration: " ++ error.message ++ "\n")
      | .internal => ⟨1, "", notes, some error⟩
      | _ => finish 1 "" (notes ++ "Error: " ++ error.message ++ "\n")

/-- Runs `resolve` on the words after it. -/
def runResolve (host : Host) (verbose : Bool) (encoding environment : Option String)
    (path : String) (words : List String) : Outcome :=
  let usage := usageLine path "[OPTIONS] VALUE"
  match read resolveParams true words with
  | .error fault => misuse usage path fault
  | .ok given =>
    if given.has "help" then finish 0 (resolveHelp path) ""
    else
      let kind := (given.value? "as").getD "generic"
      match kinds.lookup kind, given.arguments with
      | none, _ => misuse usage path (.invalidChoice "--as" kind (kinds.map Prod.fst))
      | some _, [] => misuse usage path (.missingArgument "VALUE")
      | some _, _ :: extra@(_ :: _) => misuse usage path (.extraArguments extra)
      | some demand, [value] => resolveValue host verbose encoding environment demand value

/-- Runs the command line `words` as the program `prog`, with the environment's encoding
setting, against a host. -/
def run (prog : String) (words : List String) (environment : Option String) (host : Host) :
    Outcome :=
  let usage := usageLine prog "[OPTIONS] COMMAND [ARGS]..."
  if words.isEmpty then finish 2 "" (programHelp prog)
  else match read programParams false words with
    | .error fault => misuse usage prog fault
    | .ok given =>
      match given.firstOf ["version", "help"], given.arguments with
      | some "version", _ => finish 0 (versionLine ++ "\n") ""
      | some _, _ => finish 0 (programHelp prog) ""
      | none, [] => misuse usage prog .missingCommand
      | none, name :: rest =>
        let verbose := given.has "verbose"
        let encoding := given.value? "default-encoding"
        if name == "resolve" then
          runResolve host verbose encoding environment (prog ++ " resolve") rest
        else if name == "formats" then runFormats (prog ++ " formats") rest
        else misuse usage prog (.noSuchCommand name)

end Locator.Cli
