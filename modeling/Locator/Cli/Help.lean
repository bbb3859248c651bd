import Locator.Text.Wrap

namespace Locator.Cli

/-! Help screens.

A help screen is 78 columns wide. It opens with the usage line, then the description,
filled as paragraphs and indented by two spaces, then sections such as `Options:` and
`Commands:`, each a two-column list. In a list the first column is as wide as its widest
entry, but at most 30 characters, followed by two spaces; an entry wider than that puts
its text on the next line, under the column. The text is filled to the columns left, and
its later lines stand under its first.
-/

/-- The width of a help screen. -/
def screenWidth : Nat := 78

/-- The usage line of a command, `prog` being the command path. -/
def usageLine (prog pieces : String) : String :=
  let lead := "Usage: " ++ prog ++ " "
  Text.joinWith "\n" (Text.wrap screenWidth lead (String.ofList (List.replicate lead.length ' '))
    pieces)

/-- Spaces to a column. -/
def spaces (count : Nat) : String :=
  String.ofList (List.replicate count ' ')

/-- The lines of a two-column list, indented by two spaces. -/
def listing (rows : List (String × String)) : List String :=
  let widest := (rows.map fun row => row.1.length).foldl max 0
  let column := min widest 30 + 2
  let textWidth := max (screenWidth - column - 2) 10
  rows.flatMap fun (first, text) =>
    if text.isEmpty then ["  " ++ first]
    else
      let lines := Text.pieces '\n' (Text.fill textWidth "" text)
      let later := (lines.drop 1).map fun line => spaces (column + 2) ++ line
      let head := (lines.head?).getD ""
      if first.length ≤ column - 2 then
        ("  " ++ first ++ spaces (column - first.length) ++ head) :: later
      else ("  " ++ first) :: (spaces (column + 2) ++ head) :: later

/-- A help screen: usage, description and titled lists, ending in one line break. -/
def screen (usage description : String) (sections : List (String × List (String × String))) :
    String :=
  let body := [usage, "", Text.fill screenWidth "  " description] ++
    sections.flatMap fun (title, rows) => ["", title ++ ":"] ++ listing rows
  Text.joinWith "\n" body ++ "\n"

end Locator.Cli
