import Locator.Proofs.Resolution

namespace Locator

/-! # Writing a reference back and reading it again

A reference read from a text, or checked by a resolver, is written back by `Spec.render`
with its format and compression first and its other options after them in the order
given. Reading that written form gives the reference back, unless it ends in a blank:
reading trims the whole text first, so an option value that ends in a blank, written last,
loses its blank (`render_loses_trailing_blank`). For a checked reference the written form
names its format and compression, so resolving it again infers nothing, asks nothing of
the host, and reproduces both the checked reference and the resource of the original text,
or its refusal.
-/

namespace Spec

variable {spec read : Spec}

/-- A reference that keeps the path and options of a readable one and names a format
written with neither separator is readable too. -/
theorem Readable.of_same (readable : read.Readable) (path : spec.path = read.path)
    (options : spec.options = read.options)
    (format : ∀ name, spec.format = some name →
      name ≠ "" ∧ ',' ∉ name.toList ∧ '#' ∉ name.toList) :
    spec.Readable where
  path_ne := path ▸ readable.path_ne
  path_start := path ▸ readable.path_start
  path_plain := path ▸ readable.path_plain
  format_plain := format
  distinct := options ▸ readable.distinct
  plain_keys := options ▸ readable.plain_keys
  values := options ▸ readable.values
  switches := options ▸ readable.switches

end Spec

namespace Resolver

variable {resolver : Resolver} {host : Host} {value : String} {allowed : List String}

theorem spec_result :
    (resolver.spec host value allowed).result =
      Prod.fst <$> (resolver.prepare host value allowed).result := by
  simp [Resolver.spec]

/-- A checked reference is readable: it keeps the path and options read from the text, and
names a registered format. -/
theorem prepare_readable {checked : Spec} {format : Format}
    (prepared : (resolver.prepare host value allowed).result = .ok (checked, format)) :
    checked.Readable := by
  obtain ⟨completed, done, rfl, fits, -⟩ := prepare_ok prepared
  obtain ⟨read, split, path, options⟩ := complete_keeps done
  refine (Spec.split_readable split).of_same path options fun name named => ?_
  rw [Spec.settle_format, fits.format_eq, Option.some.injEq] at named
  exact named ▸ Format.name_plain fits.mem_registry

/-- Resolving the written form of a checked reference checks it again unchanged, on any
host: its format is written, so nothing is inferred. -/
theorem prepare_render {checked : Spec} {format : Format} (other : Host)
    (prepared : (resolver.prepare host value allowed).result = .ok (checked, format))
    (ending : Text.endsInBlank checked.render = false) :
    (resolver.prepare other checked.render allowed).result = .ok (checked, format) := by
  have readable := prepare_readable prepared
  obtain ⟨completed, -, rfl, fits, listed, known⟩ := prepare_ok prepared
  have named : (completed.settle format).format.isNone = false := by simp [fits.format_eq]
  have stillListed : format.name ∈ allowed.filter resolver.known.contains := by
    simp [List.mem_filter, listed, known]
  -- a checked reference is its own settled form, so it passes the check again unchanged
  have checks := Spec.validate_settle fits.settle stillListed
  rw [Spec.settle_settle] at checks
  rw [prepare_result, complete_result, Spec.split_render readable ending, Except.ok_bind]
  simp only [named, Bool.false_eq_true, if_false, Except.ok_bind, checks]

end Resolver

/-- A reference read from a text reads back from its written form when that form does not
end in a blank; and a reference a resolver checked, written back the same way, resolves
again to itself and to the resource of the original text, or to its refusal. -/
theorem render_round_trip (resolver : Resolver) (host : Host) (value : String)
    (allowed : List String) :
    (∀ spec, Spec.split value = .ok spec → Text.endsInBlank spec.render = false →
      Spec.split spec.render = .ok spec) ∧
    (∀ spec, (resolver.spec host value allowed).result = .ok spec →
      Text.endsInBlank spec.render = false →
      (resolver.spec host spec.render allowed).result = .ok spec ∧
        (resolver.resource host spec.render allowed).result =
          (resolver.resource host value allowed).result) := by
  refine ⟨fun spec read ending => Spec.split_render (Spec.split_readable read) ending, ?_⟩
  intro spec checked ending
  rw [Resolver.spec_result] at checked
  obtain ⟨⟨checked', format⟩, prepared, rfl⟩ := Except.map_eq_ok checked
  have again := Resolver.prepare_render host prepared ending
  refine ⟨by rw [Resolver.spec_result, again]; rfl, ?_⟩
  rw [Resolver.resource_result, Resolver.resource_result, again, prepared]

/-- A bare switch is written back as `=true` and read again, and a message file checked by
the generic resolver resolves again from its written form. -/
theorem render_round_trip_json :
    Spec.split "x.json#use_proto_names" = .ok ⟨"x.json", none, none, [(.useProtoNames, "true")]⟩ ∧
      Spec.split (Spec.render ⟨"x.json", none, none, [(.useProtoNames, "true")]⟩) =
        .ok ⟨"x.json", none, none, [(.useProtoNames, "true")]⟩ ∧
      (Resolver.generic.spec (Host.ofStatus fun _ => .missing)
        (Spec.render ⟨"x.json", some "json", some .plain, []⟩) Format.allNames).result =
        .ok ⟨"x.json", some "json", some .plain, []⟩ := by
  have read : Spec.split "x.json#use_proto_names" =
      .ok ⟨"x.json", none, none, [(.useProtoNames, "true")]⟩ := by rfl
  have checked : (Resolver.generic.spec (Host.ofStatus fun _ => .missing) "x.json"
      Format.allNames).result = .ok ⟨"x.json", some "json", some .plain, []⟩ := by rfl
  exact ⟨read, (render_round_trip Resolver.generic (Host.ofStatus fun _ => .missing) _
      Format.allNames).1 _ read (by decide),
    ((render_round_trip _ _ _ _).2 _ checked (by decide)).1⟩

/-- A blank at the end of the last option value is lost when the written form is read
again: reading trims the whole text. -/
theorem render_loses_trailing_blank :
    Spec.split "a#subdir=x ,format=json" = .ok ⟨"a", some "json", none, [(.subdir, "x ")]⟩ ∧
      Spec.split (Spec.render ⟨"a", some "json", none, [(.subdir, "x ")]⟩) =
        .ok ⟨"a", some "json", none, [(.subdir, "x")]⟩ :=
  ⟨rfl, rfl⟩

end Locator
