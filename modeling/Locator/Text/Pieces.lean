namespace Locator.Text

/-! Cutting a text at a separator character.

`pieces sep s` is the list of the stretches of `s` between its separators: one more
stretch than separators, empty stretches included, so joining them with `sep` gives `s`
back. `cutFirst sep s` cuts at the first separator only.
-/

/-- The stretches of a character list between the separators `sep`. -/
def pieceChars (sep : Char) : List Char → List (List Char)
  | [] => [[]]
  | c :: rest =>
    if c = sep then [] :: pieceChars sep rest
    else match pieceChars sep rest with
      | piece :: more => (c :: piece) :: more
      | [] => [[c]]

/-- The stretches of a text between the separators `sep`. -/
def pieces (sep : Char) (s : String) : List String :=
  (pieceChars sep s.toList).map String.ofList

/-- The characters before and after the first `sep`, if there is one. -/
def cutFirstChars (sep : Char) : List Char → Option (List Char × List Char)
  | [] => none
  | c :: rest =>
    if c = sep then some ([], rest)
    else (cutFirstChars sep rest).map fun cut => (c :: cut.1, cut.2)

/-- The text before and after the first `sep`, if there is one. -/
def cutFirst (sep : Char) (s : String) : Option (String × String) :=
  (cutFirstChars sep s.toList).map fun cut => (String.ofList cut.1, String.ofList cut.2)

/-- The texts joined with `sep` between each two. -/
def joinWith (sep : String) : List String → String
  | [] => ""
  | first :: rest => rest.foldl (fun acc s => acc ++ sep ++ s) first

end Locator.Text
