import Locator.Reference

namespace Locator

/-! # Facts about the format registry

The registry is a fixed table, so every fact here is either about looking a name up in it
or a check of all fourteen entries at once. The resolution proofs use three of them: an
archive format always names its archive type, a single-message format always has an
encoding, and each demand's list of formats is exactly the formats of the kinds that
demand maps to a reference (`Demand.admits`).
-/

/-- The kinds of resource a demand maps to a reference: every kind for any reference,
single messages for a message, source trees for a source, modules for a module, and
everything but single messages for a source or a module. -/
def Demand.admits : Demand → Kind → Bool
  | .any, _ => true
  | .message, kind => kind == .single
  | .source, kind => kind.isTree
  | .module, kind => kind == .module
  | .sourceOrModule, kind => kind != .single

namespace Format

variable {name : String} {format : Format}

theorem find?_name (found : find? name = some format) : format.name = name := by
  have split := List.find?_eq_some_iff_append.mp found
  exact eq_of_beq split.1

theorem mem_of_find? (found : find? name = some format) : format ∈ registry :=
  List.mem_of_find?_eq_some found

theorem find?_of_mem (listed : format ∈ registry) : find? format.name = some format := by
  simp only [registry, List.mem_cons, List.not_mem_nil, or_false] at listed
  rcases listed with rfl | rfl | rfl | rfl | rfl | rfl | rfl | rfl | rfl | rfl | rfl | rfl |
    rfl | rfl <;> rfl

theorem mem_allNames (listed : format ∈ registry) : format.name ∈ allNames :=
  List.mem_map_of_mem listed

theorem archiveType_of_archive (listed : format ∈ registry) (archive : format.kind = .archive) :
    ∃ type, format.archiveType = some type := by
  have table : registry.all (fun format => format.kind != .archive || format.archiveType.isSome) :=
    by decide
  have entry := List.all_eq_true.mp table format listed
  simp only [archive, bne_self_eq_false, Bool.false_or] at entry
  exact Option.isSome_iff_exists.mp entry

theorem encoding_of_single (listed : format ∈ registry) (single : format.kind = .single) :
    ∃ encoding, encoding? format.name = some encoding := by
  have table : registry.all
      (fun format => format.kind != .single || (encoding? format.name).isSome) := by decide
  have entry := List.all_eq_true.mp table format listed
  simp only [single, bne_self_eq_false, Bool.false_or] at entry
  exact Option.isSome_iff_exists.mp entry

/-- A single-message format takes no option of its own: what it accepts are its custom
options. -/
theorem optionKeys_of_single (listed : format ∈ registry) (single : format.kind = .single) :
    format.optionKeys = [] := by
  have table : registry.all (fun format => format.kind != .single || format.optionKeys.isEmpty) :=
    by decide
  have entry := List.all_eq_true.mp table format listed
  simpa only [single, bne_self_eq_false, Bool.false_or, List.isEmpty_iff] using entry

theorem customKeys_switch (listed : format ∈ registry) :
    ∀ key ∈ format.customKeys, key.isSwitch = true := by
  have table : registry.all (fun format => format.customKeys.all OptionKey.isSwitch) := by decide
  simpa using List.all_eq_true.mp table format listed

theorem archiveType_of_not_archive (listed : format ∈ registry) (other : format.kind ≠ .archive) :
    format.archiveType = none := by
  have table : registry.all (fun format => format.kind == .archive || format.archiveType.isNone) :=
    by decide
  have entry := List.all_eq_true.mp table format listed
  simpa [other] using entry

/-- A registered name is non-empty and holds neither of the two separators of reference
syntax. -/
theorem name_plain (listed : format ∈ registry) :
    format.name ≠ "" ∧ ',' ∉ format.name.toList ∧ '#' ∉ format.name.toList := by
  have table : registry.all (fun format => !format.name.isEmpty &&
      (!format.name.toList.contains ',' && !format.name.toList.contains '#')) := by decide
  have entry := List.all_eq_true.mp table format listed
  simpa only [Bool.and_eq_true, Bool.not_eq_true', String.isEmpty_eq_false_iff,
    List.contains_eq_mem, decide_eq_false_iff_not] using entry

end Format

/-- The formats a demand lists are exactly the registered formats of the kinds it admits. -/
theorem Demand.mem_formats_iff (demand : Demand) {format : Format}
    (listed : format ∈ Format.registry) :
    format.name ∈ demand.formats ↔ demand.admits format.kind = true := by
  have table : Format.registry.all
      (fun format => demand.formats.contains format.name == demand.admits format.kind) := by
    cases demand <;> decide
  have entry := List.all_eq_true.mp table format listed
  rw [beq_iff_eq, List.contains_eq_mem] at entry
  rw [← entry, decide_eq_true_iff]

namespace OptionKey

@[simp] theorem ofName?_name (key : OptionKey) : ofName? key.name = some key := by
  cases key <;> rfl

theorem name_of_ofName? {text : String} {key : OptionKey} (named : ofName? text = some key) :
    key.name = text := by
  unfold ofName? at named
  split at named <;> cases named <;> rfl

theorem name_injective : Function.Injective name := by
  intro left right same
  have named := congrArg ofName? same
  rwa [ofName?_name, ofName?_name, Option.some.injEq] at named

/-- An option key is written with neither `=` nor either separator of reference syntax. -/
theorem name_plain (key : OptionKey) :
    key.name ≠ "" ∧ '=' ∉ key.name.toList ∧ ',' ∉ key.name.toList ∧ '#' ∉ key.name.toList := by
  cases key <;> decide

end OptionKey

@[simp] theorem Compression.ofName?_name (compression : Compression) :
    Compression.ofName? compression.name = some compression := by
  cases compression <;> rfl

theorem Compression.name_plain (compression : Compression) :
    compression.name ≠ "" ∧ ',' ∉ compression.name.toList ∧ '#' ∉ compression.name.toList := by
  cases compression <;> decide

end Locator
