import Locator.Error
import Locator.Text.Blank

namespace Locator

/-! References as written: `path[#key=value,...]`.

A written reference is a path followed, after one `#`, by comma-separated options. An
option is `key=value` (cut at the first `=`), or a bare switch key meaning `key=true`.
`Spec.split` reads one, after trimming the blanks at both ends, and refuses it at the
first fault in this order: nothing left, more than one `#`, an empty path, nothing after
the `#`; then, item by item from the left, an empty item, an empty key, an unknown key, a
repeated key, a missing or empty value, and a switch that is neither `true` nor `false`;
last, an unknown compression name. The `format` and `compression` options are taken out
of the list; the others keep their order.

`Spec.render` writes a reference back: the path, then `format`, `compression` and the
other options after a `#`, or the path alone when there is nothing to add.
-/

/-- A reference as written: its path, the format and compression if known, and its
other options in the order given. -/
structure Spec where
  path : String
  format : Option String
  compression : Option Compression
  options : List (OptionKey × String)
deriving DecidableEq, Repr

namespace Spec

/-- The value given for an option key. -/
def option? (spec : Spec) (key : OptionKey) : Option String :=
  (spec.options.find? fun entry => entry.1 == key).map Prod.snd

/-- Reads one option item, given the entries read before it in the same options text. -/
def readItem (options : String) (seen : List (OptionKey × String)) (item : String) :
    Except Error (OptionKey × String) := do
  if item.isEmpty then throw (.emptyOption options)
  let (keyText, given) := match Text.cutFirst '=' item with
    | some (keyText, value) => (keyText, some value)
    | none => (item, none)
  if keyText.isEmpty then throw (.emptyKey item)
  let some key := OptionKey.ofName? keyText | throw (.unknownKey keyText)
  if seen.any fun entry => entry.1 == key then throw (.duplicateKey key)
  let value ← match given with
    | none => if key.isSwitch then pure "true" else throw (.missingValue key)
    | some value => if value.isEmpty then throw (.emptyValue key) else pure value
  if key.isSwitch && !(value == "true" || value == "false") then
    throw (.notSwitch key value)
  pure (key, value)

/-- Reads the comma-separated option items after the `#`, in order. -/
def readOptions (options : String) : Except Error (List (OptionKey × String)) :=
  (Text.pieces ',' options).foldlM
    (fun seen item => do
      let entry ← readItem options seen item
      pure (seen ++ [entry]))
    []

/-- The compression a `compression` option names. -/
def readCompression : Option String → Except Error (Option Compression)
  | none => pure none
  | some name => match Compression.ofName? name with
    | some compression => pure (some compression)
    | none => throw (.unknownCompression name)

/-- A path with its option entries, `format` and `compression` taken out. -/
def ofEntries (path : String) (entries : List (OptionKey × String)) : Except Error Spec := do
  let lookup := fun (key : OptionKey) => (entries.find? fun entry => entry.1 == key).map Prod.snd
  let compression ← readCompression (lookup .compression)
  pure
    { path
      format := lookup .format
      compression
      options := entries.filter fun entry => entry.1 != .format && entry.1 != .compression }

/-- Reads a written reference. -/
def split (value : String) : Except Error Spec := do
  let text := Text.trim value
  if text.isEmpty then throw .emptyReference
  match Text.pieces '#' text with
  | [path] =>
    if path.isEmpty then throw (.emptyPath text)
    ofEntries path []
  | [path, options] =>
    if path.isEmpty then throw (.emptyPath text)
    if options.isEmpty then throw (.emptyOptions text)
    ofEntries path (← readOptions options)
  | _ => throw (.manyHashes text)

/-- The options after the `#` of a written reference: format when non-empty, compression
when known, then the other options. -/
def renderOptions (spec : Spec) : List String :=
  let format := match spec.format with
    | some name => if name.isEmpty then [] else ["format=" ++ name]
    | none => []
  let compression := match spec.compression with
    | some compression => ["compression=" ++ compression.name]
    | none => []
  format ++ compression ++ spec.options.map fun entry => entry.1.name ++ "=" ++ entry.2

/-- Writes a reference back in reference syntax. -/
def render (spec : Spec) : String :=
  match renderOptions spec with
  | [] => spec.path
  | options => spec.path ++ "#" ++ Text.joinWith "," options

end Spec

end Locator
