import Locator.Text.Quoted
import Locator.Text.Pieces
import Locator.Text.Similarity

namespace Locator.Cli

/-! Reading the options and arguments of one command.

A command declares its options by their spellings (`-v`, `--verbose`) and whether each
takes a value. Arguments are read from the left:

* `--` ends the options; everything after it is an argument;
* a word that starts with `-` and has more characters is an option: a long spelling, or
  `--name=value`, is looked up whole; a word with a single dash that is no long spelling is
  a cluster of one-letter options, of which one that takes a value takes the rest of the
  word, or else the next word;
* an option that takes a value and has none left is a fault, as is a value given to one
  that takes none, and an unknown spelling, reported with up to three close long spellings;
* any other word is an argument; a command that does not mix arguments and options stops
  reading options at its first argument, and the rest are arguments too.

Each step consumes at least one word, so reading ends within as many steps as there are
words.
-/

/-- An option of a command: its key, its spellings and whether it takes a value. -/
structure Param where
  key : String
  names : List String
  takesValue : Bool
deriving Repr

/-- A fault in a command line, reported with the usage of the command it belongs to. An
unknown option lists its suggestions in alphabetical order. -/
inductive Fault where
  | noSuchOption (name : String) (suggestions : List String)
  | needsValue (name : String)
  | takesNoValue (name : String)
  | invalidChoice (option value : String) (choices : List String)
  | missingArgument (name : String)
  | extraArguments (words : List String)
  | noSuchCommand (name : String)
  | missingCommand
deriving DecidableEq, Repr

namespace Fault

open Text in
/-- The words of a fault. -/
def message : Fault → String
  | .noSuchOption name [] => s!"No such option: {name}"
  | .noSuchOption name [suggestion] => s!"No such option: {name} Did you mean {suggestion}?"
  | .noSuchOption name suggestions =>
    let listed := joinWith ", " (suggestions.mergeSort fun a b => decide (a ≤ b))
    s!"No such option: {name} (Possible options: {listed})"
  | .needsValue name => s!"Option {quote name} requires an argument."
  | .takesNoValue name => s!"Option {quote name} does not take a value."
  | .invalidChoice option value choices =>
    let listed := joinWith ", " (choices.map quote)
    s!"Invalid value for {quote option}: {quote value} is not one of {listed}."
  | .missingArgument name => s!"Missing argument {quote name}."
  | .extraArguments [word] => s!"Got unexpected extra argument ({word})"
  | .extraArguments words =>
    let listed := joinWith " " words
    s!"Got unexpected extra arguments ({listed})"
  | .noSuchCommand name => s!"No such command {quote name}."
  | .missingCommand => "Missing command."

end Fault

/-- What a command line gave: each option met with its value, in order, and the arguments. -/
structure Given where
  options : List (String × Option String)
  arguments : List String
deriving Repr

namespace Given

/-- Whether an option was given. -/
def has (given : Given) (key : String) : Bool :=
  given.options.any fun entry => entry.1 == key

/-- The last value given to an option. -/
def value? (given : Given) (key : String) : Option String :=
  (given.options.reverse.find? fun entry => entry.1 == key).bind Prod.snd

/-- The key of the first of `keys` given, in command-line order. -/
def firstOf (given : Given) (keys : List String) : Option String :=
  (given.options.find? fun entry => keys.contains entry.1).map Prod.fst

end Given

/-- Whether a spelling is a long one: two dashes, or one dash and more than one letter. -/
def isLong (name : String) : Bool :=
  name.startsWith "--" || 2 < name.length

/-- The option of a long spelling. -/
def findLong (params : List Param) (name : String) : Option Param :=
  params.find? fun param => isLong name && param.names.contains name

/-- The option of a one-letter spelling. -/
def findShort (params : List Param) (name : String) : Option Param :=
  params.find? fun param => param.names.contains name && !isLong name

/-- The long spellings of the options, in declaration order. -/
def longNames (params : List Param) : List String :=
  params.flatMap fun param => param.names.filter isLong

/-- Reads a cluster of one-letter options, `letters` after the dash, with the words after it. -/
def readCluster (params : List Param) (options : List (String × Option String)) :
    List Char → List String → Except Fault (List (String × Option String) × List String)
  | [], rest => pure (options, rest)
  | letter :: more, rest =>
    let name := String.ofList ['-', letter]
    match findShort params name with
    | none => throw (.noSuchOption name [])
    | some param =>
      if param.takesValue then
        if more.isEmpty then
          match rest with
          | value :: rest => pure (options ++ [(param.key, some value)], rest)
          | [] => throw (.needsValue name)
        else pure (options ++ [(param.key, some (String.ofList more))], rest)
      else readCluster params (options ++ [(param.key, none)]) more rest

/-- Reads one option word, with the words after it: the options so far and the words left. -/
def readOption (params : List Param) (options : List (String × Option String)) (word : String)
    (rest : List String) : Except Fault (List (String × Option String) × List String) :=
  let (name, attached) := match Text.cutFirst '=' word with
    | some (name, value) => (name, some value)
    | none => (word, none)
  match findLong params name with
  | some param =>
    if param.takesValue then
      match attached, rest with
      | some value, rest => pure (options ++ [(param.key, some value)], rest)
      | none, value :: rest => pure (options ++ [(param.key, some value)], rest)
      | none, [] => throw (.needsValue name)
    else if attached.isSome then throw (.takesNoValue name)
    else pure (options ++ [(param.key, none)], rest)
  | none =>
    if word.startsWith "--" then throw (.noSuchOption name (Text.closest name (longNames params)))
    else readCluster params options (word.toList.drop 1) rest

/-- Reads the words of a command line; `mixed` lets arguments and options alternate. -/
def readWords (params : List Param) (mixed : Bool) :
    Nat → List String → Given → Except Fault Given
  | 0, words, given => pure { given with arguments := given.arguments ++ words }
  | _ + 1, [], given => pure given
  | fuel + 1, word :: rest, given =>
    if word == "--" then pure { given with arguments := given.arguments ++ rest }
    else if word.startsWith "-" && 1 < word.length then do
      let (options, rest) ← readOption params given.options word rest
      readWords params mixed fuel rest { given with options }
    else if mixed then
      readWords params mixed fuel rest { given with arguments := given.arguments ++ [word] }
    else pure { given with arguments := given.arguments ++ word :: rest }

/-- Reads a command line against the options of a command. -/
def read (params : List Param) (mixed : Bool) (words : List String) : Except Fault Given :=
  readWords params mixed (words.length + 1) words ⟨[], []⟩

end Locator.Cli
