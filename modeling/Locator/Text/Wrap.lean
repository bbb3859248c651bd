import Locator.Text.Pieces

namespace Locator.Text

/-! Filling lines to a width.

A text is cut into chunks: runs of blanks and runs of other characters. Lines are filled
greedily: each takes chunks while they fit in the width less its indentation, a run of
blanks that would open a line after the first is dropped, and so is one that would close
a line. A word longer than a whole line is cut at the width. Words are never broken at
hyphens.

`paragraphs` reads a text the way help screens lay it out: blank lines separate paragraphs,
a paragraph takes the indentation of its first line, and its lines are joined by single
spaces, later lines keeping their own leading blanks. `fill` wraps each paragraph with
the given indentation and separates them by an empty line.

Each line consumes at least one character of the text, so `wrapChunks` ends within as
many rounds as the text has characters; `wrap` gives it that many.
-/

/-- Whether a character separates words when lines are filled. -/
def isSpace (c : Char) : Bool :=
  c = ' ' || c = '\t' || c = '\n' || c = '\r' || c.toNat = 11 || c.toNat = 12

/-- Runs of separating characters and runs of other characters, alternating. -/
def chunkChars : List Char → List (List Char)
  | [] => []
  | c :: rest =>
    match chunkChars rest with
    | (d :: run) :: more =>
      if isSpace c == isSpace d then (c :: d :: run) :: more else [c] :: (d :: run) :: more
    | _ => [[c]]

/-- Whether a chunk is a run of separating characters. -/
def isSpaceChunk (chunk : List Char) : Bool :=
  chunk.all isSpace

/-- The chunks that fit in `room` after `used` characters, and the chunks left over. -/
def takeFitting (room : Nat) : Nat → List (List Char) → List (List Char) × List (List Char)
  | _, [] => ([], [])
  | used, chunk :: rest =>
    if used + chunk.length ≤ room then
      let (line, left) := takeFitting room (used + chunk.length) rest
      (chunk :: line, left)
    else ([], chunk :: rest)

/-- The chunks of one line, with a word longer than the whole room cut to fill it, and
the chunks left over. -/
def fillLine (room : Nat) (chunks : List (List Char)) : List (List Char) × List (List Char) :=
  let (line, left) := takeFitting room 0 chunks
  match left with
  | word :: rest =>
    if room < word.length then
      let space := Nat.max (room - line.foldl (fun used chunk => used + chunk.length) 0) 1
      (line ++ [word.take space], word.drop space :: rest)
    else (line, left)
  | [] => (line, left)

/-- The lines of the chunks, the first indented by `first` and the others by `later`. -/
def wrapChunks (width : Nat) (first later : String) :
    Nat → List (List Char) → List String → List String
  | 0, _, lines => lines.reverse
  | _ + 1, [], lines => lines.reverse
  | fuel + 1, chunk :: rest, lines =>
    let indent := if lines.isEmpty then first else later
    let chunks := if !lines.isEmpty && isSpaceChunk chunk then rest else chunk :: rest
    let (line, left) := fillLine (width - indent.length) chunks
    let line := match line.getLast? with
      | some last => if isSpaceChunk last then line.dropLast else line
      | none => line
    let lines := if line.isEmpty then lines else (indent ++ String.ofList line.flatten) :: lines
    wrapChunks width first later fuel left lines

/-- A text filled into lines of at most `width` characters, indentation included. -/
def wrap (width : Nat) (first later : String) (text : String) : List String :=
  wrapChunks width first later (text.length + 1) (chunkChars text.toList) []

/-- The paragraphs of a text: the indentation of each and its lines joined by spaces. -/
def paragraphs (text : String) : List (Nat × String) :=
  let close := fun (done : List (Nat × String)) (current : Option (Nat × List String)) =>
    match current with
    | some (indent, lines) => (indent, joinWith " " lines.reverse) :: done
    | none => done
  let step := fun (state : List (Nat × String) × Option (Nat × List String)) (line : String) =>
    let (done, current) := state
    if line.isEmpty then (close done current, none)
    else match current with
      | some (indent, lines) => (done, some (indent, line :: lines))
      | none =>
        let body := line.toList.dropWhile isSpace
        (done, some (line.length - body.length, [String.ofList body]))
  let (done, current) := (pieces '\n' text).foldl step ([], none)
  (close done current).reverse

/-- The paragraphs of a text, each filled to `width` behind `indent` and its own
indentation, separated by empty lines. -/
def fill (width : Nat) (indent : String) (text : String) : String :=
  joinWith "\n\n" ((paragraphs text).map fun paragraph =>
    let lead := indent ++ String.ofList (List.replicate paragraph.1 ' ')
    joinWith "\n" (wrap width lead lead paragraph.2))

end Locator.Text
