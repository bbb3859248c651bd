import Locator.Proofs.Resolution

namespace Locator

/-! # Resolution refuses only what its user can act on

Of the five families of refusal, a broken internal expectation and a bad setting are not
the user's to mend, and resolution never reports either: whatever the resolver, the
allowed formats, the text and the host, a refusal is a malformed reference, a path whose
format cannot be inferred, or a refusal by policy. The internal expectations hold because
only a registered format passes the check, and the registry gives each archive an archive
type and each single-message format an encoding. A switch that is neither `true` nor
`false` is refused only when the text is read: the builders and the mapping to a message
reference read again switches that reading has checked.
-/

/-- Whether a family of refusal is one the user can act on. -/
def Category.isUser : Category → Bool
  | .malformed | .inference | .policy => true
  | .internal | .configuration => false

/-- A refusal of a text that its user can act on, in which a switch that is neither `true`
nor `false` is refused by reading the text itself. -/
def Error.ForUser (value : String) (error : Error) : Prop :=
  error.category.isUser = true ∧
    ∀ key text, error = .notSwitch key text → Spec.split value = .error error

namespace Resolver

variable {resolver : Resolver} {host : Host} {value : String} {allowed : List String}
  {error : Error}

/-- A refusal of a known family other than malformed is no switch refusal. -/
theorem forUser_of_category (family : Category) (user : family.isUser = true)
    (other : family ≠ .malformed) (sorted : error.category = family) : error.ForUser value := by
  refine ⟨sorted ▸ user, ?_⟩
  rintro key text rfl
  exact absurd sorted.symm other

theorem complete_error (failed : (resolver.complete host value).result = .error error) :
    error.ForUser value := by
  rw [complete_result] at failed
  rcases Except.bind_eq_error failed with splitFailed | ⟨read, -, inferFailed⟩
  · exact ⟨by rw [Spec.split_error splitFailed]; rfl, fun _ _ _ => splitFailed⟩
  · split at inferFailed
    · exact forUser_of_category .inference rfl (by decide)
        (Inference.guess_error (Spec.infer_eq_error inferFailed))
    · cases inferFailed

theorem prepare_error (failed : (resolver.prepare host value allowed).result = .error error) :
    error.ForUser value := by
  rw [prepare_result] at failed
  rcases Except.bind_eq_error failed with completeFailed | ⟨spec, -, checkFailed⟩
  · exact complete_error completeFailed
  · rcases Spec.validate_eq_error checkFailed with rfl | ⟨policy, -⟩
    · exact ⟨rfl, fun _ _ refused => by cases refused⟩
    · exact forUser_of_category .policy rfl (by decide) policy

theorem resource_error (failed : (resolver.resource host value allowed).result = .error error) :
    error.ForUser value := by
  rw [resource_result] at failed
  rcases Except.bind_eq_error failed with prepareFailed | ⟨⟨checked, format⟩, prepared, buildFailed⟩
  · exact prepare_error prepareFailed
  · -- the builders see a registered format and switches that reading has checked
    obtain ⟨malformed, noSwitch⟩ := build_error (prepare_checked prepared).1.mem_registry
      (prepare_switches prepared) buildFailed
    exact ⟨by rw [malformed]; rfl, fun key text refused => absurd refused (noSwitch key text)⟩

theorem reference_error {demand : Demand}
    (failed : (resolver.reference host demand value).result = .error error) :
    error.ForUser value := by
  rw [reference_result] at failed
  rcases Except.bind_eq_error failed with resourceFailed | ⟨resource, resolved, mapFailed⟩
  · exact resource_error resourceFailed
  · rw [ofResource_error (resource_mappable resolved) mapFailed]
    exact forUser_of_category .policy rfl (by decide) rfl

theorem prepare_compression {checked : Spec × Format}
    (prepared : (resolver.prepare host value allowed).result = .ok checked) :
    checked.1.compression.isSome = true := by
  obtain ⟨checked, format⟩ := checked
  obtain ⟨completed, -, rfl, -⟩ := prepare_ok prepared
  rfl

/-- Resolution refuses a text only for a reason its user can act on, for every resolver,
allowed formats, text and host: for a resource and for a reference of any family. A switch
that is neither `true` nor `false` is refused only by reading the text, and a checked
reference always carries a compression. -/
theorem resolution_refuses_for_user (resolver : Resolver) (host : Host) (value : String) :
    (∀ allowed error, (resolver.resource host value allowed).result = .error error →
      error.ForUser value) ∧
    (∀ demand error, (resolver.reference host demand value).result = .error error →
      error.ForUser value) ∧
    (∀ allowed checked, (resolver.prepare host value allowed).result = .ok checked →
      checked.1.compression.isSome = true) :=
  ⟨fun _ _ failed => resource_error failed, fun _ _ failed => reference_error failed,
    fun _ _ prepared => prepare_compression prepared⟩

/-- An archive asked for as a message is refused by policy. -/
theorem message_refuses_archive :
    (Resolver.generic.reference (Host.ofStatus fun _ => .missing) .message "x.tar").result =
        .error (.formatNotAllowed "tar" .archive Format.messageNames) ∧
      Error.ForUser "x.tar" (.formatNotAllowed "tar" .archive Format.messageNames) :=
  have refused : (Resolver.generic.reference (Host.ofStatus fun _ => .missing) .message
      "x.tar").result = .error (.formatNotAllowed "tar" .archive Format.messageNames) := by rfl
  ⟨refused, (resolution_refuses_for_user _ _ _).2.1 _ _ refused⟩

end Resolver

end Locator
