import Locator.Log

namespace Locator

/-! # Laws of refusals and of computations that keep notes

Each stage of resolution is an `Except Error` computation, and resolution as a whole keeps
notes in `Logged`, a writer over an exception: binding runs the continuation on a value and
appends its notes, and a refusal stops with the notes taken so far. The simp lemmas below
reduce `throw`, `pure` and `>>=` on known outcomes, so that a `do` block of a stage unfolds
to its branches; for `Logged`, the two equations `bind_of_ok` and `bind_of_error` let the
resolution proofs peel a pipeline stage by stage without unfolding `andThen`.
-/

namespace Except

variable {ε α β : Type}

@[simp] theorem throw_eq (error : ε) : (throw error : Except ε α) = .error error := rfl

@[simp] theorem pure_eq (value : α) : (pure value : Except ε α) = .ok value := rfl

@[simp] theorem error_bind (error : ε) (next : α → Except ε β) :
    (Except.error error >>= next) = .error error := rfl

@[simp] theorem ok_bind (value : α) (next : α → Except ε β) :
    (Except.ok value >>= next) = next value := rfl

@[simp] theorem map_error (change : α → β) (error : ε) :
    change <$> (Except.error error : Except ε α) = .error error := rfl

@[simp] theorem map_ok (change : α → β) (value : α) :
    change <$> (Except.ok value : Except ε α) = .ok (change value) := rfl

theorem bind_eq_ok {first : Except ε α} {next : α → Except ε β} {value : β}
    (ran : first >>= next = .ok value) :
    ∃ middle, first = .ok middle ∧ next middle = .ok value := by
  cases first with
  | error error => cases ran
  | ok middle => exact ⟨middle, rfl, ran⟩

theorem bind_eq_error {first : Except ε α} {next : α → Except ε β} {error : ε}
    (ran : first >>= next = .error error) :
    first = .error error ∨ ∃ middle, first = .ok middle ∧ next middle = .error error := by
  cases first with
  | error earlier =>
      cases ran
      exact Or.inl rfl
  | ok middle => exact Or.inr ⟨middle, rfl, ran⟩

theorem map_eq_ok {first : Except ε α} {change : α → β} {value : β}
    (ran : change <$> first = .ok value) : ∃ middle, first = .ok middle ∧ change middle = value := by
  cases first with
  | error error => cases ran
  | ok middle => exact ⟨middle, rfl, Except.ok.inj ran⟩

end Except

namespace Logged

variable {α β : Type}

theorem bind_eq (first : Logged α) (next : α → Logged β) : first >>= next = first.andThen next :=
  rfl

theorem bind_of_ok {first : Logged α} {value : α} (succeeded : first.result = .ok value)
    (next : α → Logged β) :
    first >>= next = ⟨first.notes ++ (next value).notes, (next value).result⟩ := by
  simp only [bind_eq, andThen, succeeded]

theorem bind_of_error {first : Logged α} {error : Error} (failed : first.result = .error error)
    (next : α → Logged β) :
    first >>= next = ⟨first.notes, .error error⟩ := by
  simp only [bind_eq, andThen, failed]

@[simp] theorem pure_notes (value : α) : (pure value : Logged α).notes = [] := rfl

@[simp] theorem pure_result (value : α) : (pure value : Logged α).result = .ok value := rfl

@[simp] theorem lift_notes (result : Except Error α) : (lift result).notes = [] := rfl

@[simp] theorem lift_result (result : Except Error α) : (lift result).result = result := rfl

@[simp] theorem note_notes (level : Level) (text : String) :
    (note level text).notes = [⟨level, text⟩] := rfl

@[simp] theorem note_result (level : Level) (text : String) : (note level text).result = .ok () :=
  rfl

@[simp] theorem throw_eq (error : Error) : (throw error : Logged α) = ⟨[], .error error⟩ := rfl

@[simp] theorem bind_result (first : Logged α) (next : α → Logged β) :
    (first >>= next).result = first.result >>= fun value => (next value).result := by
  cases succeeded : first.result with
  | ok value => simp [bind_of_ok succeeded]
  | error error => simp [bind_of_error succeeded]

@[simp] theorem error_bind (notes : List Note) (error : Error) (next : α → Logged β) :
    (⟨notes, .error error⟩ : Logged α) >>= next = ⟨notes, .error error⟩ := rfl

@[simp] theorem ok_bind (notes : List Note) (value : α) (next : α → Logged β) :
    (⟨notes, .ok value⟩ : Logged α) >>= next =
      ⟨notes ++ (next value).notes, (next value).result⟩ := rfl

theorem bind_notes (first : Logged α) (next : α → Logged β) :
    (first >>= next).notes = first.notes ++ match first.result with
      | .ok value => (next value).notes
      | .error _ => [] := by
  cases succeeded : first.result with
  | ok value => simp [bind_of_ok succeeded]
  | error error => simp [bind_of_error succeeded]

@[simp] theorem warnings_nil : warnings [] = [] := rfl

@[simp] theorem warnings_append (earlier later : List Note) :
    warnings (earlier ++ later) = warnings earlier ++ warnings later := by
  simp [warnings]

@[simp] theorem warnings_debug (text : String) (rest : List Note) :
    warnings (⟨.debug, text⟩ :: rest) = warnings rest := rfl

@[simp] theorem warnings_warning (text : String) (rest : List Note) :
    warnings (⟨.warning, text⟩ :: rest) = text :: warnings rest := rfl

@[simp] theorem map_result (change : α → β) (run : Logged α) :
    (change <$> run).result = change <$> run.result := by
  show (run >>= fun value => pure (change value)).result = _
  cases succeeded : run.result <;> simp [succeeded]

instance : LawfulMonad Logged := LawfulMonad.mk' Logged
  (by
    intro α run
    show run.andThen (pure ∘ id) = run
    obtain ⟨notes, result⟩ := run
    cases result <;> simp [andThen])
  (by
    intro α β value next
    rfl)
  (by
    intro α β γ run first next
    simp only [bind_eq]
    cases ran : run.result with
    | error error => simp [andThen, ran]
    | ok value =>
        cases continued : (first value).result with
        | error error => simp [andThen, ran, continued]
        | ok middle => simp [andThen, ran, continued])

/-- A run that succeeds with `value` after a first stage: the first stage succeeded, and
the second succeeded on its value. -/
theorem bind_eq_ok {first : Logged α} {next : α → Logged β} {notes : List Note} {value : β}
    (ran : first >>= next = ⟨notes, .ok value⟩) :
    ∃ middle, first.result = .ok middle ∧ notes = first.notes ++ (next middle).notes ∧
      (next middle).result = .ok value := by
  cases succeeded : first.result with
  | error error =>
      rw [bind_of_error succeeded] at ran
      cases ran
  | ok middle =>
      rw [bind_of_ok succeeded, mk.injEq] at ran
      exact ⟨middle, rfl, ran.1.symm, ran.2⟩

theorem bind_eq_ok_iff {first : Logged α} {next : α → Logged β} {notes : List Note} {value : β} :
    first >>= next = ⟨notes, .ok value⟩ ↔
      ∃ earlier middle later, first = ⟨earlier, .ok middle⟩ ∧ next middle = ⟨later, .ok value⟩ ∧
        notes = earlier ++ later := by
  constructor
  · intro ran
    obtain ⟨middle, succeeded, rfl, continued⟩ := bind_eq_ok ran
    exact ⟨first.notes, middle, (next middle).notes, by rw [← succeeded], by rw [← continued], rfl⟩
  · rintro ⟨earlier, middle, later, rfl, continued, rfl⟩
    rw [bind_of_ok rfl, continued]

end Logged

end Locator
