import Locator.Text.Pieces
import Locator.Text.Blank

namespace Locator.Text

/-! # Cutting, joining and trimming texts

Reading a reference cuts its text at separators after trimming it; writing one joins
pieces with separators. The laws here say when the two undo each other: pieces that hold no
separator come back from their join (`pieces_joinWith`), a separator between two texts
cuts them apart (`pieceChars_append_sep`), a cut at the first separator returns what stood
on each side (`cutFirst_append`), and trimming keeps a text whose ends are not blank
(`trimCharsBy_eq_self`). The converse facts say what a cut produces: pieces
hold no separator and only characters of the text, and the first piece starts the text.
-/

/-- Whether a text ends in a blank character. -/
def endsInBlank (s : String) : Bool :=
  s.toList.getLast?.any isBlank

variable {sep c : Char} {cs piece : List Char}

theorem pieceChars_ne_nil (sep : Char) (cs : List Char) : pieceChars sep cs ≠ [] := by
  cases cs with
  | nil => simp [pieceChars]
  | cons first rest =>
      simp only [pieceChars]
      split
      · simp
      · split <;> simp

/-- A cut gives one piece more than the text has separators. -/
theorem pieceChars_length (sep : Char) (cs : List Char) :
    (pieceChars sep cs).length = cs.count sep + 1 := by
  induction cs with
  | nil => rfl
  | cons first rest ih =>
      simp only [pieceChars]
      split
      · rename_i same
        subst same
        simp [ih]
      · rename_i different
        have uncounted : (first :: rest).count sep = rest.count sep :=
          List.count_cons_of_ne different
        split
        · rename_i piece more cut
          rw [cut] at ih
          rw [uncounted, ← ih]
          rfl
        · exact absurd ‹pieceChars sep rest = []› (pieceChars_ne_nil sep rest)

theorem pieces_length (sep : Char) (s : String) : (pieces sep s).length = s.toList.count sep + 1 := by
  rw [pieces, List.length_map, pieceChars_length]

theorem pieceChars_of_not_mem (absent : sep ∉ cs) : pieceChars sep cs = [cs] := by
  induction cs with
  | nil => rfl
  | cons first rest ih =>
      simp only [List.mem_cons, not_or] at absent
      simp only [pieceChars, Ne.symm absent.1, if_false, ih absent.2]

theorem pieceChars_append (absent : sep ∉ cs) (rest : List Char) :
    pieceChars sep (cs ++ sep :: rest) = cs :: pieceChars sep rest := by
  induction cs with
  | nil => simp [pieceChars]
  | cons first more ih =>
      simp only [List.mem_cons, not_or] at absent
      simp only [List.cons_append, pieceChars, Ne.symm absent.1, if_false, ih absent.2]

theorem pieceChars_cons (c : Char) (cs : List Char) :
    pieceChars sep (c :: cs) =
      if c = sep then [] :: pieceChars sep cs else (pieceChars sep cs).modifyHead (c :: ·) := by
  simp only [pieceChars]
  split
  · rfl
  · cases cut : pieceChars sep cs with
    | nil => exact absurd cut (pieceChars_ne_nil sep cs)
    | cons piece more => rfl

/-- A separator between two texts cuts them apart. -/
theorem pieceChars_append_sep (cs ds : List Char) :
    pieceChars sep (cs ++ sep :: ds) = pieceChars sep cs ++ pieceChars sep ds := by
  induction cs with
  | nil => simp [pieceChars]
  | cons c rest ih =>
      rw [List.cons_append, pieceChars_cons, pieceChars_cons, ih]
      split
      · rfl
      · obtain ⟨piece, more, cut⟩ := List.exists_cons_of_ne_nil (pieceChars_ne_nil sep rest)
        rw [cut]
        rfl

/-- Each separator in front of a text cuts off one empty piece. -/
theorem pieceChars_replicate_append (n : Nat) (cs : List Char) :
    pieceChars sep (List.replicate n sep ++ cs) = List.replicate n [] ++ pieceChars sep cs := by
  induction n with
  | zero => rfl
  | succ n ih => simp [List.replicate_succ, pieceChars, ih]

/-- Characters without a separator, appended to a text, extend its last piece. -/
theorem pieceChars_append_free {ds : List Char} (absent : sep ∉ ds) (cs : List Char) :
    ∃ front last, pieceChars sep cs = front ++ [last] ∧
      pieceChars sep (cs ++ ds) = front ++ [last ++ ds] := by
  induction cs with
  | nil => exact ⟨[], [], rfl, by simp [pieceChars_of_not_mem absent]⟩
  | cons c rest ih =>
      obtain ⟨front, last, cut, cutAfter⟩ := ih
      rw [List.cons_append, pieceChars_cons, pieceChars_cons, cut, cutAfter]
      split
      · exact ⟨[] :: front, last, rfl, rfl⟩
      · cases front with
        | nil => exact ⟨[], c :: last, rfl, rfl⟩
        | cons piece more => exact ⟨(c :: piece) :: more, last, rfl, rfl⟩

theorem pieceChars_intercalate {items : List (List Char)} (nonempty : items ≠ [])
    (absent : ∀ item ∈ items, sep ∉ item) :
    pieceChars sep (List.intercalate [sep] items) = items := by
  induction items with
  | nil => exact absurd rfl nonempty
  | cons first rest ih =>
      cases rest with
      | nil =>
          rw [List.intercalate_singleton]
          exact pieceChars_of_not_mem (absent first List.mem_cons_self)
      | cons second more =>
          rw [List.intercalate_cons_cons, List.append_assoc, List.singleton_append,
            pieceChars_append (absent first List.mem_cons_self),
            ih (List.cons_ne_nil _ _)
              (fun item member => absent item (List.mem_cons_of_mem _ member))]

/-- A piece holds no separator and only characters of the text it was cut from. -/
theorem mem_pieceChars (cut : piece ∈ pieceChars sep cs) : sep ∉ piece ∧ ∀ c ∈ piece, c ∈ cs := by
  induction cs generalizing piece with
  | nil =>
      simp only [pieceChars, List.mem_singleton] at cut
      subst cut
      simp
  | cons first rest ih =>
      simp only [pieceChars] at cut
      split at cut
      · rcases List.mem_cons.mp cut with rfl | later
        · simp
        · exact ⟨(ih later).1, fun c member => List.mem_cons_of_mem _ ((ih later).2 c member)⟩
      · rename_i different
        split at cut
        · rename_i head more cutRest
          rcases List.mem_cons.mp cut with rfl | later
          · have inner := ih (cutRest ▸ List.mem_cons_self)
            refine ⟨?_, fun c member => ?_⟩
            · simp only [List.mem_cons, not_or]
              exact ⟨Ne.symm different, inner.1⟩
            · rcases List.mem_cons.mp member with rfl | inside
              · exact List.mem_cons_self
              · exact List.mem_cons_of_mem _ (inner.2 c inside)
          · have inner := ih (cutRest ▸ List.mem_cons_of_mem _ later)
            exact ⟨inner.1, fun c member => List.mem_cons_of_mem _ (inner.2 c member)⟩
        · exact absurd ‹pieceChars sep rest = []› (pieceChars_ne_nil sep rest)

/-- The first piece of a cut starts the text. -/
theorem pieceChars_head_prefix {more : List (List Char)} (cut : pieceChars sep cs = piece :: more) :
    piece <+: cs := by
  induction cs generalizing piece more with
  | nil =>
      simp only [pieceChars, List.cons.injEq] at cut
      obtain ⟨rfl, -⟩ := cut
      exact List.prefix_refl _
  | cons first rest ih =>
      simp only [pieceChars] at cut
      split at cut
      · simp only [List.cons.injEq] at cut
        rw [← cut.1]
        exact List.nil_prefix
      · split at cut
        · rename_i head tail cutRest
          simp only [List.cons.injEq] at cut
          rw [← cut.1]
          exact List.cons_prefix_cons.mpr ⟨rfl, ih cutRest⟩
        · exact absurd ‹pieceChars sep rest = []› (pieceChars_ne_nil sep rest)

theorem mem_pieces {s piece : String} (cut : piece ∈ pieces sep s) :
    sep ∉ piece.toList ∧ ∀ c ∈ piece.toList, c ∈ s.toList := by
  obtain ⟨chars, member, rfl⟩ := List.mem_map.mp cut
  rw [String.toList_ofList]
  exact mem_pieceChars member

theorem pieces_head_prefix {s first : String} {more : List String}
    (cut : pieces sep s = first :: more) : first.toList <+: s.toList := by
  cases chars : pieceChars sep s.toList with
  | nil => exact absurd chars (pieceChars_ne_nil sep s.toList)
  | cons head tail =>
      rw [pieces, chars, List.map_cons, List.cons.injEq] at cut
      rw [← cut.1, String.toList_ofList]
      exact pieceChars_head_prefix chars

theorem joinWith_toList (sep : String) (items : List String) :
    (joinWith sep items).toList = List.intercalate sep.toList (items.map String.toList) := by
  cases items with
  | nil => simp [joinWith]
  | cons first rest =>
      simp only [joinWith, List.map_cons]
      induction rest generalizing first with
      | nil => simp
      | cons second more ih =>
          rw [List.foldl_cons, ih, List.map_cons, List.intercalate_cons_cons]
          simp only [String.toList_append, List.append_assoc]
          cases more <;> simp [List.intercalate_cons_cons, List.append_assoc]

theorem mem_joinWith {sep : String} {items : List String}
    (member : c ∈ (joinWith sep items).toList) :
    c ∈ sep.toList ∨ ∃ item ∈ items, c ∈ item.toList := by
  rw [joinWith_toList] at member
  induction items with
  | nil => simp at member
  | cons first rest ih =>
      cases rest with
      | nil => exact Or.inr ⟨first, List.mem_cons_self, by simpa using member⟩
      | cons second more =>
          rw [List.map_cons, List.map_cons, List.intercalate_cons_cons] at member
          rcases List.mem_append.mp member with front | later
          · rcases List.mem_append.mp front with inFirst | inSep
            · exact Or.inr ⟨first, List.mem_cons_self, inFirst⟩
            · exact Or.inl inSep
          · rcases ih (by simpa using later) with inSep | ⟨item, listed, inItem⟩
            · exact Or.inl inSep
            · exact Or.inr ⟨item, List.mem_cons_of_mem _ listed, inItem⟩

/-- Pieces that hold no separator are cut back out of their join. -/
theorem pieces_joinWith {items : List String} (nonempty : items ≠ [])
    (absent : ∀ item ∈ items, sep ∉ item.toList) :
    pieces sep (joinWith (String.singleton sep) items) = items := by
  have cut : pieceChars sep (List.intercalate [sep] (items.map String.toList)) =
      items.map String.toList :=
    pieceChars_intercalate (by simpa using nonempty) (by simpa using absent)
  rw [pieces, joinWith_toList, String.toList_singleton, cut, List.map_map]
  conv => rhs; rw [← List.map_id items]
  exact List.map_congr_left fun item _ => String.ofList_toList

/-- Joining the pieces of a cut with the separator gives the text back. -/
theorem intercalate_pieceChars (sep : Char) (cs : List Char) :
    List.intercalate [sep] (pieceChars sep cs) = cs := by
  induction cs with
  | nil => rfl
  | cons first rest ih =>
      simp only [pieceChars]
      split
      · rename_i same
        rw [List.intercalate_cons_of_ne_nil (pieceChars_ne_nil sep rest), ih, same]
        rfl
      · split
        · rename_i piece more cut
          rw [List.intercalate_cons_cons_left, ← cut, ih]
        · exact absurd ‹pieceChars sep rest = []› (pieceChars_ne_nil sep rest)

theorem joinWith_pieces (sep : Char) (s : String) :
    joinWith (String.singleton sep) (pieces sep s) = s := by
  apply String.toList_injective
  rw [joinWith_toList, String.toList_singleton, pieces, List.map_map]
  have back : (String.toList ∘ String.ofList) = id := funext fun _ => String.toList_ofList
  rw [back, List.map_id, intercalate_pieceChars]

theorem cutFirstChars_append {before : List Char} (absent : sep ∉ before) (after : List Char) :
    cutFirstChars sep (before ++ sep :: after) = some (before, after) := by
  induction before with
  | nil => simp [cutFirstChars]
  | cons first rest ih =>
      simp only [List.mem_cons, not_or] at absent
      simp [cutFirstChars, Ne.symm absent.1, ih absent.2]

theorem cutFirstChars_eq_some {before after : List Char}
    (cut : cutFirstChars sep cs = some (before, after)) :
    cs = before ++ sep :: after ∧ sep ∉ before := by
  induction cs generalizing before with
  | nil => simp [cutFirstChars] at cut
  | cons first rest ih =>
      simp only [cutFirstChars] at cut
      split at cut
      · rename_i same
        simp only [Option.some.injEq, Prod.mk.injEq] at cut
        obtain ⟨rfl, rfl⟩ := cut
        simp [same]
      · rename_i different
        obtain ⟨⟨inner, tail⟩, found, rebuilt⟩ := Option.map_eq_some_iff.mp cut
        simp only [Prod.mk.injEq] at rebuilt
        obtain ⟨rfl, rfl⟩ := rebuilt
        obtain ⟨split, absent⟩ := ih found
        simp [split, absent, Ne.symm different]

theorem cutFirstChars_eq_none (cut : cutFirstChars sep cs = none) : sep ∉ cs := by
  induction cs with
  | nil => simp
  | cons first rest ih =>
      simp only [cutFirstChars] at cut
      split at cut
      · cases cut
      · rename_i different
        simp only [Option.map_eq_none_iff] at cut
        simp [Ne.symm different, ih cut]

theorem cutFirst_eq_some {s before after : String} (cut : cutFirst sep s = some (before, after)) :
    s.toList = before.toList ++ sep :: after.toList ∧ sep ∉ before.toList := by
  obtain ⟨⟨front, back⟩, found, rebuilt⟩ := Option.map_eq_some_iff.mp cut
  simp only [Prod.mk.injEq] at rebuilt
  obtain ⟨rfl, rfl⟩ := rebuilt
  simpa [String.toList_ofList] using cutFirstChars_eq_some found

theorem cutFirst_append {before : String} (absent : sep ∉ before.toList) (after : String) :
    cutFirst sep (before ++ String.singleton sep ++ after) = some (before, after) := by
  simp [cutFirst, String.toList_append, cutFirstChars_append absent, String.ofList_toList]

/-! ### Trimming -/

theorem trimCharsBy_eq_self {blank : Char → Bool}
    (head : ∀ c ∈ cs.head?, blank c = false) (last : ∀ c ∈ cs.getLast?, blank c = false) :
    trimCharsBy blank cs = cs := by
  have front : cs.dropWhile blank = cs := by
    cases cs with
    | nil => rfl
    | cons first rest => exact List.dropWhile_cons_of_neg (by simpa using head first rfl)
  have back : cs.reverse.dropWhile blank = cs.reverse := by
    cases reversed : cs.reverse with
    | nil => rfl
    | cons first rest =>
        have ending : cs.getLast? = some first := by rw [← List.head?_reverse, reversed]; rfl
        exact List.dropWhile_cons_of_neg (by simpa using last first ending)
  rw [trimCharsBy, front, back, List.reverse_reverse]

theorem trim_eq_self {s : String} (head : ∀ c ∈ s.toList.head?, isBlank c = false)
    (ending : endsInBlank s = false) : trim s = s := by
  have last : ∀ c ∈ s.toList.getLast?, isBlank c = false := by
    intro c found
    rw [endsInBlank, Option.mem_def.mp found] at ending
    exact ending
  rw [trim, trimChars, trimCharsBy_eq_self head last, String.ofList_toList]

theorem mem_trim {s : String} {c : Char} (member : c ∈ (trim s).toList) : c ∈ s.toList := by
  rw [trim, String.toList_ofList, trimChars, trimCharsBy, List.mem_reverse] at member
  exact (List.dropWhile_suffix isBlank).subset
    (List.mem_reverse.mp ((List.dropWhile_suffix isBlank).subset member))

/-- A trimmed text neither starts nor ends with a blank. -/
theorem trimCharsBy_ends (blank : Char → Bool) (cs : List Char) :
    (∀ c ∈ (trimCharsBy blank cs).head?, blank c = false) ∧
      (∀ c ∈ (trimCharsBy blank cs).getLast?, blank c = false) := by
  refine ⟨fun c found => ?_, fun c found => ?_⟩
  · -- the trimmed text starts the text left after the leading blanks
    have shorter : trimCharsBy blank cs <+: cs.dropWhile blank := by
      have := (List.dropWhile_suffix blank (l := (cs.dropWhile blank).reverse)).reverse
      rwa [List.reverse_reverse] at this
    obtain ⟨rest, rebuilt⟩ := shorter
    have front := List.head?_dropWhile_not blank cs
    rw [← rebuilt, List.head?_append, Option.mem_def.mp found] at front
    exact front
  · have back := List.head?_dropWhile_not blank (cs.dropWhile blank).reverse
    rw [trimCharsBy, List.getLast?_reverse] at found
    rw [Option.mem_def.mp found] at back
    exact back

end Locator.Text
