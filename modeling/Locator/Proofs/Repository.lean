import Locator.Proofs.WholeNumber

namespace Locator

/-! # The options of a git repository

A git reference's options are read by fixed rules. It has five possible faults, each decided
on its own, and building it reports the first of them in this order: the path is a stream
token; a branch is given with a tag; a tag is given with a ref; the depth is no whole
number, is negative or is zero; the subdirectory is absolute or leaves its root. A reference
without a fault builds the repository at its path whose revision is the first given of the
ref (with the branch to clone), the branch and the tag; whose depth is the value of its
literal when given, else 50 with a ref and 1 without; which fetches submodules only when
`recurse_submodules` is `true`; and whose subdirectory is the normalised one
(`git_options_resolve`).
-/

/-- The refusal of a reading, if it refuses. -/
def refusal? {α : Type} : Except Error α → Option Error
  | .error refusal => some refusal
  | .ok _ => none

/-- The fault of a depth written as `text`: no whole number, a negative one, or zero. -/
def depthFault (text : String) : Option Error :=
  match readCount .depth text with
  | .error refusal => some refusal
  | .ok depth => if depth = 0 then some .zeroDepth else none

namespace Spec

/-- The faults of a git reference, in the order they are reported, each decided on its own. -/
def cloneFaults (spec : Spec) (format : Format) : List (Option Error) :=
  [if Path.isStreamToken spec.path then some (.streamPath spec.path format.name) else none,
    if (spec.option? .branch).isSome && (spec.option? .tag).isSome then some .branchAndTag
    else none,
    if (spec.option? .tag).isSome && (spec.option? .ref).isSome then some .tagAndRef else none,
    (spec.option? .depth).bind depthFault,
    refusal? (readSubdir (spec.option? .subdir))]

/-- The revision a git reference asks for: the first given of the ref, with the branch to
clone, the branch and the tag. -/
def chosenRevision (spec : Spec) : Option Revision :=
  ((spec.option? .ref).map fun ref => ⟨.ref, ref, spec.option? .branch⟩).or <|
    ((spec.option? .branch).map fun branch => ⟨.branch, branch, none⟩).or <|
      (spec.option? .tag).map fun tag => ⟨.tag, tag, none⟩

/-- The depth a git reference asks for: the value of the literal given, else 50 with a ref
and 1 without. -/
def chosenDepth (spec : Spec) : Nat :=
  match spec.option? .depth with
  | some text => ((Text.readInteger? text).getD 0).toNat
  | none => if (spec.option? .ref).isSome then 50 else 1

/-- The repository a git reference without faults names. -/
def cloneOf (spec : Spec) (format : Format) : Repository where
  format := format.name
  path := spec.path
  revision := spec.chosenRevision
  depth := spec.chosenDepth
  recurseSubmodules := spec.option? .recurseSubmodules == some "true"
  subdir := (readSubdir (spec.option? .subdir)).toOption.getD ""

end Spec

variable {spec : Spec} {format : Format}

theorem selectRevision_eq :
    selectRevision (spec.option? .branch) (spec.option? .tag) (spec.option? .ref) =
      spec.chosenRevision := by
  unfold selectRevision Spec.chosenRevision
  cases spec.option? .ref <;> cases spec.option? .branch <;> cases spec.option? .tag <;> rfl

/-- The depth is read to its fault or to the depth asked for. -/
theorem readDepth_eq :
    readDepth (spec.option? .depth) (spec.option? .ref).isSome =
      match (spec.option? .depth).bind depthFault with
      | some fault => .error fault
      | none => .ok spec.chosenDepth := by
  unfold Spec.chosenDepth
  cases spec.option? .depth with
  | none => rfl
  | some text =>
      simp only [readDepth, Option.bind_some, depthFault]
      unfold readCount
      cases Text.readInteger? text with
      | none => rfl
      | some number =>
          by_cases negative : number < 0
          · simp [negative]
          · by_cases zero : number.toNat = 0 <;> simp [negative, zero]

/-- A submodule switch that holds `true` or `false` is read as whether it is `true`. -/
theorem readSwitch_recurse
    (switch : ∀ value ∈ spec.option? .recurseSubmodules, value = "true" ∨ value = "false") :
    readSwitch .recurseSubmodules ((spec.option? .recurseSubmodules).getD "false") =
      .ok (spec.option? .recurseSubmodules == some "true") := by
  cases given : spec.option? .recurseSubmodules with
  | none => rfl
  | some value =>
      rcases switch value given with rfl | rfl <;> rfl

/-- A git reference whose switches hold `true` or `false` is refused with the first of its
faults, in the order stream path, branch with tag, tag with ref, depth, subdirectory, and
without a fault builds the repository with the revision, depth, submodule switch and
subdirectory it asks for. -/
theorem git_options_resolve (git : format.kind = .git)
    (switch : ∀ value ∈ spec.option? .recurseSubmodules, value = "true" ∨ value = "false") :
    Resource.build spec format =
      match (spec.cloneFaults format).findSome? id with
      | some fault => .error fault
      | none => .ok (.tree (.repository (spec.cloneOf format))) := by
  simp only [Resource.build, git, rejectStream, readRepository, Spec.cloneFaults,
    List.findSome?_cons, id]
  by_cases token : Path.isStreamToken spec.path
  · simp [token]
  by_cases branchTag : ((spec.option? .branch).isSome && (spec.option? .tag).isSome) = true
  · simp [token, branchTag]
  by_cases tagRef : ((spec.option? .tag).isSome && (spec.option? .ref).isSome) = true
  · simp [token, branchTag, tagRef]
  simp only [token, branchTag, tagRef, Bool.false_eq_true, if_false, readDepth_eq,
    readSwitch_recurse switch]
  cases (spec.option? .depth).bind depthFault with
  | some fault => simp
  | none =>
      cases read : readSubdir (spec.option? .subdir) with
      | error refusal => simp [refusal?]
      | ok subdir => simp [refusal?, Spec.cloneOf, read, selectRevision_eq, Except.toOption]

/-- A ref given with a branch keeps the branch to clone and takes the depth of a ref. -/
theorem ref_keeps_branch :
    Resource.build ⟨"repo.git", some "git", none, [(.ref, "abc123"), (.branch, "main")]⟩
        (Format.plain "git" .git [.branch, .depth, .recurseSubmodules, .ref, .subdir, .tag]) =
      .ok (.tree (.repository ⟨"git", "repo.git", some ⟨.ref, "abc123", some "main"⟩, 50, false, ""⟩)) := by
  rw [git_options_resolve rfl (by simp [Spec.option?])]
  decide

end Locator
