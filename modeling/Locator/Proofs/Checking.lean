import Locator.Validation
import Locator.Proofs.Logged
import Locator.Proofs.Registry

namespace Locator.Spec

/-! # What checking a reference establishes

`Spec.validate` asks three things of the format it finds in the registry: that the caller
allows it, that it takes the compression the reference settles on, and that it takes every
option. Only the first reads the allowed list, so a check that passes passes with every
allowed list that holds the format (`validate_eq_ok`), and what it returns is the reference
with its compression settled (`settle`), which passes the same check again
(`validate_settle`). A refusal is an unknown format or a refusal by policy.
-/

variable {spec checked : Spec} {format : Format} {allowed : List String}

/-- The compression a reference settles on with a format: the one written, else the
format's default, else none. -/
def settledCompression (spec : Spec) (format : Format) : Compression :=
  spec.compression.getD (format.defaultCompression.getD .plain)

/-- The reference with its compression settled for a format. -/
def settle (spec : Spec) (format : Format) : Spec :=
  { spec with compression := some (spec.settledCompression format) }

@[simp] theorem settle_path : (spec.settle format).path = spec.path := rfl

@[simp] theorem settle_format : (spec.settle format).format = spec.format := rfl

@[simp] theorem settle_compression :
    (spec.settle format).compression = some (spec.settledCompression format) := rfl

@[simp] theorem settle_options : (spec.settle format).options = spec.options := rfl

@[simp] theorem settledCompression_settle :
    (spec.settle format).settledCompression format = spec.settledCompression format := rfl

@[simp] theorem settle_settle : (spec.settle format).settle format = spec.settle format := rfl

/-- What a format must be for a reference, whatever the caller allows: the registry entry
of its format name, taking the compression the reference settles on and every option. -/
structure Fits (spec : Spec) (format : Format) : Prop where
  found : spec.format.bind Format.find? = some format
  compression : spec.settledCompression format ∈ format.compressions
  options : ∀ entry ∈ spec.options, format.accepts entry.1 = true

theorem format?_eq_ok : spec.format? = .ok format ↔ spec.format.bind Format.find? = some format := by
  unfold format?
  cases spec.format.bind Format.find? <;> simp

theorem format?_eq_error {error : Error} :
    spec.format? = .error error ↔
      spec.format.bind Format.find? = none ∧ error = .unknownFormat spec.format := by
  unfold format?
  cases spec.format.bind Format.find? <;> simp [eq_comm]

/-- A check passes exactly when the format fits the reference and the caller allows it;
it returns the reference with its compression settled. -/
theorem validate_eq_ok :
    spec.validate allowed = .ok (checked, format) ↔
      spec.Fits format ∧ format.name ∈ allowed ∧ checked = spec.settle format := by
  cases found : spec.format? with
  | error error =>
      have missing := (format?_eq_error.mp found).1
      simp only [validate, found, Except.error_bind, reduceCtorEq, false_iff]
      exact fun ⟨fits, _⟩ => by simp [fits.found] at missing
  | ok entry =>
      -- the entry found is the only format that can fit
      have named := format?_eq_ok.mp found
      have unique : ∀ {other}, spec.Fits other → other = entry := fun fits =>
        Option.some.inj (fits.found.symm.trans named)
      have settled : spec.compression.getD (entry.defaultCompression.getD .plain) =
          spec.settledCompression entry := rfl
      simp only [validate, found, Except.ok_bind, settled]
      by_cases listed : entry.name ∈ allowed
      · by_cases taken : spec.settledCompression entry ∈ entry.compressions
        · cases refused : spec.options.find? fun option => !entry.accepts option.1 with
          | none =>
              have accepted : ∀ option ∈ spec.options, entry.accepts option.1 = true := by
                simpa using List.find?_eq_none.mp refused
              simp only [List.contains_iff_mem, listed, taken, if_true]
              constructor
              · intro ran
                cases ran
                exact ⟨⟨named, taken, accepted⟩, listed, rfl⟩
              · rintro ⟨fits, -, rfl⟩
                cases unique fits
                rfl
          | some option =>
              have member := List.mem_of_find?_eq_some refused
              have rejected := List.find?_some refused
              simp [listed, taken]
              intro fits
              cases unique fits
              simp [fits.options option member] at rejected
        · simp [listed, taken]
          intro fits
          cases unique fits
          exact absurd fits.compression taken
      · simp [listed]
        intro fits
        cases unique fits
        exact fun allowedHere => absurd allowedHere listed

/-- A refusal of a check is an unknown format or a refusal by policy that reports the
allowed list as the caller gave it. -/
theorem validate_eq_error {error : Error} (failed : spec.validate allowed = .error error) :
    error = .unknownFormat spec.format ∨
      error.category = .policy ∧ (error.policy?.map Policy.allowed) = some allowed := by
  cases found : spec.format? with
  | error missing =>
      simp only [validate, found, Except.error_bind, Except.error.injEq] at failed
      exact Or.inl (failed ▸ (format?_eq_error.mp found).2)
  | ok entry =>
      simp only [validate, found, Except.ok_bind] at failed
      by_cases listed : entry.name ∈ allowed
      · by_cases taken : spec.settledCompression entry ∈ entry.compressions
        · cases refused : spec.options.find? fun option => !entry.accepts option.1 with
          | none =>
              simp [settledCompression] at taken
              simp [listed, taken, refused] at failed
          | some option =>
              simp [settledCompression] at taken
              simp [listed, taken, refused] at failed
              subst failed
              exact Or.inr ⟨rfl, rfl⟩
        · simp [settledCompression] at taken
          simp [listed, taken] at failed
          subst failed
          exact Or.inr ⟨rfl, rfl⟩
      · simp [listed] at failed
        subst failed
        exact Or.inr ⟨rfl, rfl⟩

namespace Fits

theorem format_eq (fits : spec.Fits format) : spec.format = some format.name := by
  have found := fits.found
  cases written : spec.format with
  | none => simp [written] at found
  | some name =>
      rw [written, Option.bind_some] at found
      rw [Format.find?_name found]

theorem find?_name (fits : spec.Fits format) : Format.find? format.name = some format := by
  simpa [fits.format_eq] using fits.found

theorem mem_registry (fits : spec.Fits format) : format ∈ Format.registry :=
  Format.mem_of_find? fits.find?_name

theorem settle (fits : spec.Fits format) : (spec.settle format).Fits format where
  found := fits.found
  compression := fits.compression
  options := fits.options

end Fits

/-- A check that passes passes with every allowed list that holds its format. -/
theorem validate_allowed {other : List String} (checks : spec.validate allowed = .ok (checked, format))
    (listed : format.name ∈ other) : spec.validate other = .ok (checked, format) := by
  obtain ⟨fits, -, settled⟩ := validate_eq_ok.mp checks
  exact validate_eq_ok.mpr ⟨fits, listed, settled⟩

/-- A checked reference passes the same check again, unchanged. -/
theorem validate_settle (fits : spec.Fits format) (listed : format.name ∈ allowed) :
    (spec.settle format).validate allowed = .ok (spec.settle format, format) :=
  validate_eq_ok.mpr ⟨fits.settle, listed, rfl⟩

end Locator.Spec
