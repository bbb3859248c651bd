namespace Locator.Text

/-! How alike two texts are, by their matching blocks.

The matching blocks of two texts are found by taking the longest common block (the one
that starts first in the first text, then first in the second, among the longest), then
doing the same on the parts before it and the parts after it. The similarity of the texts
is twice the number of matched characters over the sum of their lengths. A word is close
to a candidate when that ratio is at least three fifths; `closest` keeps the three most
similar candidates, a tie going to the candidate that sorts last.

Each search for blocks works on strictly shorter parts than the one before, so `matched`
ends within as many rounds as the two texts have characters together.
-/

/-- The length of the common run of `a` from `i` and `b` from `j`, inside the bounds. -/
def runLength (a b : Array Char) (i ahi j bhi : Nat) : Nat :=
  ((List.range (min (ahi - i) (bhi - j))).takeWhile fun k => a[i + k]? == b[j + k]?).length

/-- The longest common block of `a[alo, ahi)` and `b[blo, bhi)`: its starts and length. -/
def longestBlock (a b : Array Char) (alo ahi blo bhi : Nat) : Nat × Nat × Nat :=
  (List.range (ahi - alo)).foldl
    (fun best di =>
      (List.range (bhi - blo)).foldl
        (fun best dj =>
          let size := runLength a b (alo + di) ahi (blo + dj) bhi
          if best.2.2 < size then (alo + di, blo + dj, size) else best)
        best)
    (alo, blo, 0)

/-- The number of characters in the matching blocks of `a[alo, ahi)` and `b[blo, bhi)`. -/
def matched (a b : Array Char) : Nat → Nat → Nat → Nat → Nat → Nat
  | 0, _, _, _, _ => 0
  | fuel + 1, alo, ahi, blo, bhi =>
    let (i, j, size) := longestBlock a b alo ahi blo bhi
    if size = 0 then 0
    else
      let before := if alo < i ∧ blo < j then matched a b fuel alo i blo j else 0
      let after :=
        if i + size < ahi ∧ j + size < bhi then matched a b fuel (i + size) ahi (j + size) bhi
        else 0
      size + before + after

/-- The characters two texts have in their matching blocks. -/
def matchedCount (word candidate : String) : Nat :=
  let a := candidate.toList.toArray
  let b := word.toList.toArray
  matched a b (a.size + b.size + 1) 0 a.size 0 b.size

/-- Whether a candidate is close to a word: twice the matched characters reach three fifths
of the two lengths together. -/
def isClose (word candidate : String) : Bool :=
  3 * (word.length + candidate.length) ≤ 10 * matchedCount word candidate

/-- Whether candidate `x` is more similar to the word than `y`, or as similar and later in
order. -/
def ranksBefore (word x y : String) : Bool :=
  let mx := 2 * matchedCount word x
  let my := 2 * matchedCount word y
  let tx := word.length + x.length
  let ty := word.length + y.length
  my * tx < mx * ty || (my * tx == mx * ty && decide (y < x))

/-- The at most three candidates closest to a word, the most similar first. -/
def closest (word : String) (candidates : List String) : List String :=
  ((candidates.filter (isClose word)).mergeSort (ranksBefore word)).take 3

end Locator.Text
