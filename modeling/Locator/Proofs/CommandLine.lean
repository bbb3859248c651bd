import Locator.Cli
import Locator.Proofs.Document
import Locator.Proofs.Advisories
import Locator.Proofs.Refusals

namespace Locator.Cli

/-! # The resolve command answers what the library answers

`resolve --as KIND -- VALUE`, after `--default-encoding NAME` or not, reads its words into the
resolver of the kind's demand, configured by the name and the environment's setting only for
messages, and resolves the value with it. It exits with 0 and prints the reference's document
exactly when the resolver is configured and resolves the value to that reference; the document
names the reference, since two references never print one document. Otherwise it exits with 1
and prints nothing: a bad setting is reported as `Error: Invalid configuration:` and its
message, and a refusal as `Error:` and its message, with no warning before it, since
resolution takes warnings only on success. The encoding name and the environment change the
outcome only for messages (`resolve_command_answers`).
-/

/-- The words that give `--default-encoding` its value, if there is one. -/
def encodingWords : Option String → List String
  | some name => ["--default-encoding", name]
  | none => []

/-- The command line `resolve --as kind -- value`, after the words of an encoding name. -/
def resolveWords (encoding : Option String) (kind value : String) : List String :=
  encodingWords encoding ++ ["resolve", "--as", kind, "--", value]

/-! ### Reading the words -/

theorem read_resolve (kind value : String) :
    read resolveParams true ["--as", kind, "--", value] = .ok ⟨[("as", some kind)], [value]⟩ := by
  have long : 1 < "--as".length := by decide
  simp [read, readWords, readOption, findLong, isLong, resolveParams, Text.cutFirst,
    Text.cutFirstChars, long]

theorem read_program_plain (rest : List String) :
    read programParams false ("resolve" :: rest) = .ok ⟨[], "resolve" :: rest⟩ := by
  simp [read, readWords]

theorem read_program_encoding (name : String) (rest : List String) :
    read programParams false ("--default-encoding" :: name :: "resolve" :: rest) =
      .ok ⟨[("default-encoding", some name)], "resolve" :: rest⟩ := by
  have long : 1 < "--default-encoding".length := by decide
  simp [read, readWords, readOption, findLong, isLong, programParams, Text.cutFirst,
    Text.cutFirstChars, long]

theorem lookup_kind {kind : String} {demand : Demand} (listed : (kind, demand) ∈ kinds) :
    kinds.lookup kind = some demand := by
  simp only [kinds, List.mem_cons, Prod.mk.injEq, List.not_mem_nil, or_false] at listed
  rcases listed with ⟨rfl, rfl⟩ | ⟨rfl, rfl⟩ | ⟨rfl, rfl⟩ | ⟨rfl, rfl⟩ | ⟨rfl, rfl⟩ <;> rfl

section Run

variable {kind : String} {demand : Demand} (listed : (kind, demand) ∈ kinds) (host : Host)
  (encoding environment : Option String) (value : String)

include listed

theorem runResolve_words (verbose : Bool) (path : String) :
    runResolve host verbose encoding environment path ["--as", kind, "--", value] =
      resolveValue host verbose encoding environment demand value := by
  simp [runResolve, read_resolve, Given.has, Given.value?, lookup_kind listed]

/-- The resolve words run the resolution of the value for the kind's demand, without debug
notes, with the encoding name given. -/
theorem run_resolveWords (prog : String) :
    run prog (resolveWords encoding kind value) environment host =
      resolveValue host false encoding environment demand value := by
  cases encoding with
  | none =>
      simp [run, resolveWords, encodingWords, read_program_plain, Given.firstOf, Given.has,
        Given.value?, runResolve_words listed]
  | some name =>
      simp [run, resolveWords, encodingWords, read_program_encoding, Given.firstOf, Given.has,
        Given.value?, runResolve_words listed]

end Run

/-! ### The three outcomes of a resolution -/

section Outcomes

variable {host : Host} {encoding environment : Option String} {demand : Demand} {value : String}

/-- Without `--verbose` only warnings are shown, so a run that takes none shows nothing. -/
theorem noteLines_quiet {notes : List Note} (quiet : Logged.warnings notes = []) :
    noteLines false notes = "" := by
  have none : notes.filter (fun note => note.level == .warning) = [] := by
    simpa [Logged.warnings] using quiet
  simp [noteLines, none]

theorem resolveValue_of_misconfigured {error : Error}
    (refused : Resolver.configure demand encoding environment = .error error) :
    resolveValue host false encoding environment demand value =
      finish 1 "" ("Error: Invalid configuration: " ++ error.message ++ "\n") := by
  simp [resolveValue, refused]

theorem resolveValue_of_resolved {resolver : Resolver} {reference : Reference}
    (configured : Resolver.configure demand encoding environment = .ok resolver)
    (resolved : (resolver.reference host demand value).result = .ok reference) :
    resolveValue host false encoding environment demand value =
      finish 0 (reference.toJson.render ++ "\n")
        (noteLines false (resolver.reference host demand value).notes) := by
  simp [resolveValue, configured, resolved]

/-- A refusal is one the user can act on, and the run took no warning before it. -/
theorem resolveValue_of_refused {resolver : Resolver} {error : Error}
    (configured : Resolver.configure demand encoding environment = .ok resolver)
    (refused : (resolver.reference host demand value).result = .error error) :
    resolveValue host false encoding environment demand value =
      finish 1 "" ("Error: " ++ error.message ++ "\n") := by
  have user : error.category.isUser = true := (Resolver.reference_error refused).1
  have warned : Logged.warnings (resolver.reference host demand value).notes =
      owedWarnings (Reference.resource <$> (resolver.reference host demand value).result) :=
    Resolver.reference_warnings
  rw [refused] at warned
  have quiet := noteLines_quiet warned
  simp only [resolveValue, configured, refused, quiet, String.empty_append]
  -- a refusal the user can act on is neither a broken expectation nor a bad setting
  cases category : error.category
  case internal => rw [category] at user; cases user
  case configuration => rw [category] at user; cases user
  all_goals rfl

end Outcomes

theorem configure_of_ne_message {demand : Demand} (other : demand ≠ .message)
    (given environment : Option String) :
    Resolver.configure demand given environment = .ok (Resolver.forDemand .binpb demand) := by
  cases demand
  case message => exact absurd rfl other
  all_goals rfl

/-! ### The resolve command -/

/-- `resolve --as kind -- value` exits with 0 and prints the document of a reference exactly
when the kind's resolver, configured by the encoding name and the environment, resolves the
value to that reference. A bad setting exits with 1 and reports the configuration, a refusal
exits with 1 and reports its message, both with nothing printed; and for a kind other than
messages, neither the encoding name nor the environment changes the outcome. -/
theorem resolve_command_answers (prog : String) (host : Host) (encoding environment : Option String)
    (kind value : String) (demand : Demand) (listed : (kind, demand) ∈ kinds) :
    let outcome := run prog (resolveWords encoding kind value) environment host
    (∀ reference, outcome.exitCode = 0 ∧ outcome.stdout = reference.toJson.render ++ "\n" ↔
      ∃ resolver, Resolver.configure demand encoding environment = .ok resolver ∧
        (resolver.reference host demand value).result = .ok reference) ∧
    (∀ error, Resolver.configure demand encoding environment = .error error →
      outcome = finish 1 "" ("Error: Invalid configuration: " ++ error.message ++ "\n")) ∧
    (∀ resolver error, Resolver.configure demand encoding environment = .ok resolver →
      (resolver.reference host demand value).result = .error error →
      outcome = finish 1 "" ("Error: " ++ error.message ++ "\n")) ∧
    (demand ≠ .message → ∀ encoding' environment',
      outcome = run prog (resolveWords encoding' kind value) environment' host) := by
  intro outcome
  have runs : outcome = resolveValue host false encoding environment demand value :=
    run_resolveWords listed host encoding environment value prog
  refine ⟨fun reference => ⟨fun printed => ?_, fun answered => ?_⟩, fun error refused => ?_,
    fun resolver error configured refused => ?_, fun other encoding' environment' => ?_⟩
  · -- a run that exits with 0 resolved the value, and its document names the reference
    obtain ⟨succeeded, document⟩ := printed
    rw [runs] at succeeded document
    cases configured : Resolver.configure demand encoding environment with
    | error error =>
        rw [resolveValue_of_misconfigured configured] at succeeded
        cases succeeded
    | ok resolver =>
        cases resolved : (resolver.reference host demand value).result with
        | error error =>
            rw [resolveValue_of_refused configured resolved] at succeeded
            cases succeeded
        | ok found =>
            rw [resolveValue_of_resolved configured resolved] at document
            have same : found.toJson.render ++ "\n" = reference.toJson.render ++ "\n" := document
            rw [Reference.document_injective same] at resolved
            exact ⟨resolver, rfl, resolved⟩
  · obtain ⟨resolver, configured, resolved⟩ := answered
    rw [runs, resolveValue_of_resolved configured resolved]
    exact ⟨rfl, rfl⟩
  · rw [runs, resolveValue_of_misconfigured refused]
  · rw [runs, resolveValue_of_refused configured refused]
  · rw [runs, run_resolveWords listed host encoding' environment' value prog]
    simp only [resolveValue, configure_of_ne_message other]

/-- For source trees, an encoding name that names no encoding changes nothing. -/
theorem source_command_ignores_encoding :
    ("source", Demand.source) ∈ kinds ∧
      run "protoref" (resolveWords (some "bogus") "source" "protos") none
          (Host.ofStatus fun _ => .directory) =
        run "protoref" (resolveWords none "source" "protos") (some "yaml")
          (Host.ofStatus fun _ => .directory) :=
  ⟨by decide, (resolve_command_answers "protoref" (Host.ofStatus fun _ => .directory) (some "bogus")
    none "source" "protos" .source (by decide)).2.2.2 (by decide) none (some "yaml")⟩

end Locator.Cli
