import Locator.Path
import Locator.Proofs.Text

namespace Locator.Path

/-! # The normal form of a path

Normalisation reads a path component by component and keeps a stack: a plain component
(not empty, neither `.` nor `..`) is pushed, `.` and empty components are skipped, and `..`
pops the top, except that a relative path keeps a `..` that has nothing plain to cancel.
Every stack that `push` builds is therefore plain components over a run of `..`, and the
run is empty under a root (`foldl_push_stacked`, `Stacked.reverse_eq`). Hence a normal
form that neither starts at the root nor climbs out with `..` is plain components joined
by slashes (`normalize_plain_of_inside`), and such a path is its own normal form
(`normalize_joinWith_plain`). Every normal form is its own normal form
(`normalize_normalize`), and normalisation only ever adds slashes and dots to the
characters of the path (`mem_normalize`).
-/

/-- A component that normalisation keeps as written: not empty, neither `.` nor `..`, and
without a slash. -/
def Plain (part : String) : Prop :=
  part ≠ "" ∧ part ≠ "." ∧ part ≠ ".." ∧ '/' ∉ part.toList

/-- The stack normalisation keeps, its top first: plain components over `..` entries, which
only a relative path keeps. -/
def Stacked (rooted : Bool) : List String → Prop
  | [] => True
  | part :: rest =>
    (Plain part ∨ part = ".." ∧ rooted = false ∧ ∀ below ∈ rest, below = "..") ∧
      Stacked rooted rest

variable {rooted : Bool} {kept parts : List String} {part : String}

theorem push_plain (plain : Plain part) : push rooted kept part = part :: kept := by
  obtain ⟨nonempty, notDot, notUp, -⟩ := plain
  simp [push, nonempty, notDot, notUp]

/-- One step of normalisation keeps the shape of the stack. -/
theorem push_stacked (slashFree : '/' ∉ part.toList) (stacked : Stacked rooted kept) :
    Stacked rooted (push rooted kept part) := by
  by_cases skipped : part = "" ∨ part = "."
  · simpa [push, skipped] using stacked
  by_cases up : part = ".."
  · subst up
    cases kept with
    | nil =>
        cases rooted
        · simp [push, Stacked]
        · simp [push, Stacked]
    | cons top rest =>
        obtain ⟨topShape, restStacked⟩ := stacked
        by_cases topUp : top = ".."
        · -- a `..` on top: the stack holds only `..`, and the path is relative
          subst topUp
          have relative : rooted = false := by
            rcases topShape with plain | ⟨-, relative, -⟩
            · exact absurd rfl plain.2.2.1
            · exact relative
          have below : ∀ entry ∈ rest, entry = ".." := by
            rcases topShape with plain | ⟨-, -, below⟩
            · exact absurd rfl plain.2.2.1
            · exact below
          simp only [push, String.reduceEq, or_self, if_false, ne_eq, not_true_eq_false,
            if_true]
          exact ⟨Or.inr ⟨rfl, relative, by simpa using below⟩,
            Or.inr ⟨rfl, relative, below⟩, restStacked⟩
        · simpa [push, topUp] using restStacked
  · simp only [not_or] at skipped
    rw [push_plain ⟨skipped.1, skipped.2, up, slashFree⟩]
    exact ⟨Or.inl ⟨skipped.1, skipped.2, up, slashFree⟩, stacked⟩

/-- A run of normalisation over components without slashes keeps the shape of the stack. -/
theorem foldl_push_stacked (slashFree : ∀ part ∈ parts, '/' ∉ part.toList)
    (stacked : Stacked rooted kept) : Stacked rooted (parts.foldl (push rooted) kept) := by
  induction parts generalizing kept with
  | nil => exact stacked
  | cons part rest ih =>
      rw [List.foldl_cons]
      exact ih (fun other member => slashFree other (List.mem_cons_of_mem _ member))
        (push_stacked (slashFree part List.mem_cons_self) stacked)

/-- Read from the bottom, a stack is a run of `..`, empty under a root, then plain
components. -/
theorem Stacked.reverse_eq (stacked : Stacked rooted kept) :
    ∃ ups plains, kept.reverse = List.replicate ups ".." ++ plains ∧
      (∀ plain ∈ plains, Plain plain) ∧ (rooted = true → ups = 0) := by
  induction kept with
  | nil => exact ⟨0, [], rfl, by simp, fun _ => rfl⟩
  | cons part rest ih =>
      obtain ⟨shape, restStacked⟩ := stacked
      obtain ⟨ups, plains, restEq, plainAll, rootedUps⟩ := ih restStacked
      rcases shape with plain | ⟨rfl, relative, below⟩
      · refine ⟨ups, plains ++ [part], by simp [restEq], ?_, rootedUps⟩
        intro other member
        rcases List.mem_append.mp member with earlier | same
        · exact plainAll other earlier
        · rw [List.mem_singleton.mp same]
          exact plain
      · -- a `..` on top: everything below is `..` too
        have allUp : rest = List.replicate rest.length ".." := List.eq_replicate_iff.mpr ⟨rfl, below⟩
        refine ⟨rest.length + 1, [], ?_, by simp, fun rooted => absurd rooted (by simp [relative])⟩
        rw [List.reverse_cons, allUp, List.reverse_replicate, List.length_replicate,
          List.append_nil, ← List.replicate_succ']

theorem foldl_push_plain (plain : ∀ part ∈ parts, Plain part) :
    parts.foldl (push rooted) kept = parts.reverse ++ kept := by
  induction parts generalizing kept with
  | nil => rfl
  | cons part rest ih =>
      rw [List.foldl_cons, push_plain (plain part List.mem_cons_self),
        ih (fun other member => plain other (List.mem_cons_of_mem _ member))]
      simp

/-! ### The shape of a normal form -/

theorem leadingSlashes_of_head {path : String} (head : path.toList.head? ≠ some '/') :
    leadingSlashes path = 0 := by
  unfold leadingSlashes
  split <;> simp_all

theorem startsWith_slash_of_lead {lead : Nat} (positive : 0 < lead) (rest : String) :
    (String.ofList (List.replicate lead '/') ++ rest).startsWith "/" = true := by
  obtain ⟨more, rfl⟩ := Nat.exists_eq_add_of_lt positive
  simp [String.startsWith_string_iff, List.replicate_succ]

/-- A join of plain components starts with the first one, which is no slash. -/
theorem joinWith_plain_head {plains : List String} (nonempty : plains ≠ [])
    (plain : ∀ part ∈ plains, Plain part) :
    ∃ c rest, (Text.joinWith "/" plains).toList = c :: rest ∧ c ≠ '/' := by
  obtain ⟨first, more, rfl⟩ := List.exists_cons_of_ne_nil nonempty
  obtain ⟨firstNonempty, -, -, firstSlashFree⟩ := plain first List.mem_cons_self
  obtain ⟨c, chars, firstChars⟩ : ∃ c chars, first.toList = c :: chars := by
    cases listed : first.toList with
    | nil => exact absurd (String.toList_eq_nil_iff.mp listed) firstNonempty
    | cons c more => exact ⟨c, more, rfl⟩
  have notSlash : c ≠ '/' := fun same => firstSlashFree (by rw [firstChars, same]; simp)
  rw [Text.joinWith_toList]
  cases more with
  | nil => exact ⟨c, chars, by simp [firstChars], notSlash⟩
  | cons second rest =>
      exact ⟨c, chars ++ '/' :: List.intercalate ['/'] (second.toList :: rest.map String.toList),
        by simp [firstChars], notSlash⟩

/-- A path of plain components joined by slashes is its own normal form. -/
theorem normalize_joinWith_plain {plains : List String} (nonempty : plains ≠ [])
    (plain : ∀ part ∈ plains, Plain part) :
    normalize (Text.joinWith "/" plains) = Text.joinWith "/" plains := by
  obtain ⟨c, rest, chars, notSlash⟩ := joinWith_plain_head nonempty plain
  have unrooted : leadingSlashes (Text.joinWith "/" plains) = 0 :=
    leadingSlashes_of_head (by simp [chars, notSlash])
  have cut : Text.pieces '/' (Text.joinWith "/" plains) = plains :=
    Text.pieces_joinWith nonempty fun part member => (plain part member).2.2.2
  have written : Text.joinWith "/" plains ≠ "" := fun empty => by
    rw [empty] at chars
    cases chars
  simp only [normalize, unrooted, cut, foldl_push_plain plain, List.append_nil,
    List.reverse_reverse, List.replicate_zero, String.ofList_nil, String.empty_append,
    written, if_false]

/-- A join that starts with `..` is `..` or starts with `../`. -/
theorem joinWith_up (rest : List String) :
    Text.joinWith "/" (".." :: rest) = ".." ∨
      (Text.joinWith "/" (".." :: rest)).startsWith "../" = true := by
  cases rest with
  | nil => exact Or.inl rfl
  | cons next more =>
      right
      simp [String.startsWith_string_iff, Text.joinWith_toList]

/-- A normal form is `.` or the path's leading slashes followed by the join of the stack
that normalisation builds, read from the bottom. -/
theorem normalize_cases (path : String) :
    normalize path = "." ∨ ∃ kept, Stacked (decide (0 < leadingSlashes path)) kept ∧
      normalize path =
        String.ofList (List.replicate (leadingSlashes path) '/') ++ Text.joinWith "/" kept.reverse ∧
      String.ofList (List.replicate (leadingSlashes path) '/') ++ Text.joinWith "/" kept.reverse ≠ "" := by
  have stacked : Stacked (decide (0 < leadingSlashes path))
      ((Text.pieces '/' path).foldl (push (decide (0 < leadingSlashes path))) []) :=
    foldl_push_stacked (fun part member => (Text.mem_pieces member).1) trivial
  dsimp only [normalize]
  split
  · exact Or.inl rfl
  · exact Or.inr ⟨_, stacked, rfl, ‹_›⟩

/-- A normal form other than `.` is the path's leading slashes followed by the kept
components: a run of `..` and then plain components. -/
theorem normalize_body {path : String} (notDot : normalize path ≠ ".") :
    ∃ ups plains, (∀ plain ∈ plains, Plain plain) ∧ normalize path ≠ "" ∧
      normalize path = String.ofList (List.replicate (leadingSlashes path) '/') ++
        Text.joinWith "/" (List.replicate ups ".." ++ plains) := by
  rcases normalize_cases path with dot | ⟨kept, stacked, shape, filled⟩
  · exact absurd dot notDot
  obtain ⟨ups, plains, keptEq, plainAll, -⟩ := stacked.reverse_eq
  rw [keptEq] at shape filled
  exact ⟨ups, plains, plainAll, shape ▸ filled, shape⟩

/-- A normal form that is not `.`, does not start at the root and does not climb out with
`..` is plain components joined by slashes. -/
theorem normalize_plain_of_inside {path : String} (notDot : normalize path ≠ ".")
    (relative : isAbsolute (normalize path) = false)
    (inside : normalize path ≠ ".." ∧ (normalize path).startsWith "../" = false) :
    ∃ plains, plains ≠ [] ∧ (∀ part ∈ plains, Plain part) ∧
      normalize path = Text.joinWith "/" plains := by
  obtain ⟨ups, plains, plainAll, filled, body⟩ := normalize_body notDot
  -- no leading slash, since the form is relative
  have unrooted : leadingSlashes path = 0 := by
    apply Nat.eq_zero_of_not_pos
    intro positive
    rw [body, isAbsolute, startsWith_slash_of_lead positive] at relative
    cases relative
  rw [unrooted, List.replicate_zero, String.ofList_nil, String.empty_append] at body
  -- no `..` in front, since the form does not climb out
  have noUps : ups = 0 := by
    apply Nat.eq_zero_of_not_pos
    intro positive
    obtain ⟨fewer, rfl⟩ := Nat.exists_eq_succ_of_ne_zero (Nat.pos_iff_ne_zero.mp positive)
    rw [body, List.replicate_succ, List.cons_append] at inside
    rcases joinWith_up (List.replicate fewer ".." ++ plains) with up | up
    · exact inside.1 up
    · rw [inside.2] at up
      cases up
  rw [noUps, List.replicate_zero, List.nil_append] at body
  have nonempty : plains ≠ [] := by
    rintro rfl
    exact filled body
  exact ⟨plains, nonempty, plainAll, body⟩

/- Names that only start with dots are plain, and `..` cancels the component before it. -/
example : normalize "..a/.../x/../" = "..a/..." := by decide +kernel

/-! ### Normalising twice

A normal form is either `.` or up to two slashes followed by the join of a stack that `push`
can build. Cutting such a text at its slashes gives one empty piece per leading slash and
then the stack read from the bottom, and normalising those pieces builds the same stack
again; so a normal form is its own normal form (`normalize_normalize`).
-/

theorem leadingSlashes_le (path : String) : leadingSlashes path ≤ 2 := by
  unfold leadingSlashes
  split <;> omega

/-- Up to two slashes in front of a text that does not start with one are all counted. -/
theorem leadingSlashes_slashes {lead : Nat} {rest : String} (few : lead ≤ 2)
    (head : rest.toList.head? ≠ some '/') :
    leadingSlashes (String.ofList (List.replicate lead '/') ++ rest) = lead := by
  unfold leadingSlashes
  rw [String.toList_append, String.toList_ofList]
  -- the text after the slashes is empty or starts with another character
  obtain _ | _ | _ | lead := lead <;>
    cases chars : rest.toList <;> simp_all [List.replicate_succ]

theorem foldl_push_skipped (n : Nat) : (List.replicate n "").foldl (push rooted) kept = kept := by
  induction n with
  | zero => rfl
  | succ n ih => simp [List.replicate_succ, push, ih]

/-- In a relative path each `..` over a run of `..` lengthens the run. -/
theorem foldl_push_ups (ups more : Nat) :
    (List.replicate ups "..").foldl (push false) (List.replicate more "..") =
      List.replicate (ups + more) ".." := by
  induction ups generalizing more with
  | zero => simp
  | succ ups ih =>
      have once : push false (List.replicate more "..") ".." = List.replicate (more + 1) ".." := by
        cases more <;> simp [push, List.replicate_succ]
      rw [List.replicate_succ, List.foldl_cons, once, ih]
      congr 1
      omega

/-- The join of a stack, read from the bottom, starts with `..` or a plain component. -/
theorem Stacked.joinWith_head (stacked : Stacked rooted kept) :
    (Text.joinWith "/" kept.reverse).toList.head? ≠ some '/' := by
  obtain ⟨ups, plains, shape, plainAll, -⟩ := stacked.reverse_eq
  rw [shape]
  cases ups with
  | succ ups => simp [List.replicate_succ, Text.joinWith_toList]
  | zero =>
      rw [List.replicate_zero, List.nil_append]
      by_cases empty : plains = []
      · simp [empty, Text.joinWith]
      · obtain ⟨c, rest, chars, notSlash⟩ := joinWith_plain_head empty plainAll
        simp [chars, notSlash]

/-- Normalising the components of the join of a stack builds the stack again. -/
theorem Stacked.refold (stacked : Stacked rooted kept) :
    (Text.pieces '/' (Text.joinWith "/" kept.reverse)).foldl (push rooted) [] = kept := by
  obtain ⟨ups, plains, shape, plainAll, rootedUps⟩ := stacked.reverse_eq
  have back : kept = plains.reverse ++ List.replicate ups ".." := by
    rw [← List.reverse_reverse kept, shape]
    simp
  -- a run of `..` only stands at the bottom of a relative stack
  have upsRead : (List.replicate ups "..").foldl (push rooted) [] = List.replicate ups ".." := by
    cases rooted with
    | false => simpa using foldl_push_ups ups 0
    | true =>
        rw [rootedUps rfl]
        rfl
  rw [shape]
  by_cases empty : List.replicate ups ".." ++ plains = []
  · obtain ⟨noUps, rfl⟩ := List.append_eq_nil_iff.mp empty
    rw [back, noUps]
    rfl
  · have slashFree : ∀ part ∈ List.replicate ups ".." ++ plains, '/' ∉ part.toList := by
      intro part member
      rcases List.mem_append.mp member with up | plain
      · rw [(List.mem_replicate.mp up).2]
        decide
      · exact (plainAll part plain).2.2.2
    have cut : Text.pieces '/' (Text.joinWith "/" (List.replicate ups ".." ++ plains)) =
        List.replicate ups ".." ++ plains := Text.pieces_joinWith empty slashFree
    rw [cut, List.foldl_append, upsRead, foldl_push_plain plainAll, back]

/-- Up to two slashes followed by the join of a stack, when not empty, are a normal form. -/
theorem normalize_written {lead : Nat} (few : lead ≤ 2) (stacked : Stacked (decide (0 < lead)) kept)
    (filled : String.ofList (List.replicate lead '/') ++ Text.joinWith "/" kept.reverse ≠ "") :
    normalize (String.ofList (List.replicate lead '/') ++ Text.joinWith "/" kept.reverse) =
      String.ofList (List.replicate lead '/') ++ Text.joinWith "/" kept.reverse := by
  have counted := leadingSlashes_slashes few stacked.joinWith_head
  -- one empty piece per leading slash, then the components of the join
  have cut : Text.pieces '/' (String.ofList (List.replicate lead '/') ++
      Text.joinWith "/" kept.reverse) =
        List.replicate lead "" ++ Text.pieces '/' (Text.joinWith "/" kept.reverse) := by
    simp [Text.pieces, String.toList_append, Text.pieceChars_replicate_append]
  unfold normalize
  simp only [counted, cut, List.foldl_append, foldl_push_skipped, stacked.refold, filled, if_false]

theorem normalize_ne_empty (path : String) : normalize path ≠ "" := by
  rcases normalize_cases path with dot | ⟨kept, -, shape, filled⟩
  · rw [dot]
    decide
  · rw [shape]
    exact filled

/-- A normal form is its own normal form: normalising a path twice changes nothing. -/
theorem normalize_normalize (path : String) : normalize (normalize path) = normalize path := by
  rcases normalize_cases path with dot | ⟨kept, stacked, shape, filled⟩
  · rw [dot]
    rfl
  · rw [shape]
    exact normalize_written (leadingSlashes_le path) stacked filled

/-! ### What a normal form is made of -/

theorem mem_push {entry : String} (member : entry ∈ push rooted kept part) :
    entry ∈ kept ∨ entry = part ∨ entry = ".." := by
  unfold push at member
  by_cases skipped : part = "" ∨ part = "."
  · rw [if_pos skipped] at member
    exact Or.inl member
  rw [if_neg skipped] at member
  by_cases up : part ≠ ".."
  · rw [if_pos up] at member
    rcases List.mem_cons.mp member with rfl | earlier
    · exact Or.inr (Or.inl rfl)
    · exact Or.inl earlier
  rw [if_neg up] at member
  cases kept with
  | nil =>
      cases rooted
      · exact Or.inr (Or.inr (List.mem_singleton.mp member))
      · cases member
  | cons top rest =>
      simp only at member
      split at member
      · rcases List.mem_cons.mp member with rfl | earlier
        · exact Or.inr (Or.inr rfl)
        · exact Or.inl earlier
      · exact Or.inl (List.mem_cons_of_mem _ member)

theorem mem_foldl_push {entry : String} (member : entry ∈ parts.foldl (push rooted) kept) :
    entry ∈ kept ∨ entry ∈ parts ∨ entry = ".." := by
  induction parts generalizing kept with
  | nil => exact Or.inl member
  | cons part rest ih =>
      rcases ih member with pushed | later | up
      · rcases mem_push pushed with earlier | rfl | up
        · exact Or.inl earlier
        · exact Or.inr (Or.inl List.mem_cons_self)
        · exact Or.inr (Or.inr up)
      · exact Or.inr (Or.inl (List.mem_cons_of_mem _ later))
      · exact Or.inr (Or.inr up)

/-- The characters of a normal form are characters of the path, slashes and dots. -/
theorem mem_normalize {path : String} {c : Char} (member : c ∈ (normalize path).toList) :
    c ∈ path.toList ∨ c = '/' ∨ c = '.' := by
  simp only [normalize] at member
  split at member
  · exact Or.inr (Or.inr (by simpa using member))
  · simp only [String.toList_append, String.toList_ofList, List.mem_append,
      List.mem_replicate] at member
    rcases member with ⟨-, rfl⟩ | joined
    · exact Or.inr (Or.inl rfl)
    rcases Text.mem_joinWith joined with slash | ⟨entry, kept, inEntry⟩
    · exact Or.inr (Or.inl (by simpa using slash))
    rcases mem_foldl_push (List.mem_reverse.mp kept) with none | piece | rfl
    · cases none
    · exact Or.inl ((Text.mem_pieces piece).2 c inEntry)
    · exact Or.inr (Or.inr (by simpa using inEntry))

end Locator.Path
