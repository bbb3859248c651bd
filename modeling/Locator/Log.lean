import Locator.Error

namespace Locator

/-! Computations that keep notes.

Resolution reports what it decided as notes: debug notes on inference and on the final
written form, and a warning for a deprecated format name. `Logged α` is a result or a
refusal together with the notes taken on the way; a refusal keeps the notes taken before
it, and nothing after it runs.
-/

/-- How much a note matters. -/
inductive Level where
  | debug
  | warning
deriving DecidableEq, Repr

/-- The written name of a level. -/
def Level.name : Level → String
  | .debug => "DEBUG"
  | .warning => "WARNING"

/-- One note taken during resolution. -/
structure Note where
  level : Level
  text : String
deriving DecidableEq, Repr

/-- A result or a refusal, with the notes taken up to it. -/
structure Logged (α : Type) where
  notes : List Note
  result : Except Error α

namespace Logged

/-- A value, with no notes. -/
def ok (value : α) : Logged α :=
  ⟨[], .ok value⟩

/-- A step that may be refused and takes no notes. -/
def lift (result : Except Error α) : Logged α :=
  ⟨[], result⟩

/-- Runs `next` on the value of `first`, keeping the notes of both; a refusal stops. -/
def andThen (first : Logged α) (next : α → Logged β) : Logged β :=
  match first.result with
  | .error error => ⟨first.notes, .error error⟩
  | .ok value =>
    let rest := next value
    ⟨first.notes ++ rest.notes, rest.result⟩

instance : Monad Logged where
  pure := ok
  bind := andThen

instance : MonadExceptOf Error Logged where
  throw error := ⟨[], .error error⟩
  tryCatch body handler :=
    match body.result with
    | .ok _ => body
    | .error error =>
      let recovered := handler error
      ⟨body.notes ++ recovered.notes, recovered.result⟩

/-- Takes a note. -/
def note (level : Level) (text : String) : Logged Unit :=
  ⟨[⟨level, text⟩], .ok ()⟩

/-- The texts of the warnings among the notes. -/
def warnings (notes : List Note) : List String :=
  (notes.filter fun note => note.level == .warning).map Note.text

end Logged

end Locator
