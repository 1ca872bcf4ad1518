import TableSchema.Proofs.Specs.Settings

/-!
# The shape decides what is read

`shape_decides_reading`: the check of the shape alone decides whether stored specs are read and what is
reported if they are not. The last resort of the reader, for specs that have the right shape and still cannot be
decoded, shows up in no error, whether specs are stored or come from settings.
-/

namespace TableSchema

/-! ## What the check of a shape finds -/

theorem violation?_eq_some_iff (d : Declared) (members : List (String × Json)) (x : Violation) :
    d.violation? members = some x ↔
      (∃ w, members.lookup d.name = some w ∧ d.slot.fits w = false ∧ x = .misfit d.name d.slot (d.slot.found w)) ∨
      (members.lookup d.name = none ∧ d.required = true ∧ x = .missing d.name) := by
  unfold Declared.violation?
  cases members.lookup d.name with
  | none =>
    simp only [reduceCtorEq, false_and, exists_false, false_or, true_and, Option.ite_none_right_eq_some,
      Option.some.injEq]
    exact and_congr_right fun _ => eq_comm
  | some w =>
    simp only [Option.some.injEq, exists_eq_left', reduceCtorEq, false_and, or_false, Option.ite_none_left_eq_some,
      Bool.not_eq_true]
    exact and_congr_right fun _ => eq_comm

theorem cases_of_mem_violations {t : FieldType} {v : Json} {x : Violation} (hx : x ∈ t.violations v) :
    (∃ kind, x = .notAnObject kind) ∨ (∃ name, x = .undeclared name) ∨ (∃ name, x = .missing name) ∨
      ∃ name slot found, x = .misfit name slot found := by
  cases v with
  | object members =>
    rcases List.mem_append.mp hx with h | h
    · obtain ⟨name, _, rfl⟩ := List.mem_map.mp h
      exact Or.inr (Or.inl ⟨name, rfl⟩)
    · obtain ⟨d, _, h⟩ := List.mem_filterMap.mp h
      rcases (violation?_eq_some_iff d members x).mp h with ⟨w, _, _, rfl⟩ | ⟨_, _, rfl⟩
      · exact Or.inr (Or.inr (Or.inr ⟨_, _, _, rfl⟩))
      · exact Or.inr (Or.inr (Or.inl ⟨_, rfl⟩))
  | _ => exact Or.inl ⟨_, List.mem_singleton.mp hx⟩

/-! ## The last resort -/

/-- The report of specs that passed the check of their shape and could not be decoded: it blames the specs as a
whole and asks for specs of some type. -/
def Violation.IsLastResort (x : Violation) : Prop :=
  x.field = "$specs" ∧ ∃ t : FieldType, x.expected = t.tag ++ " specs"

theorem not_isLastResort_of_mem_violations {t : FieldType} {v : Json} {x : Violation} (hx : x ∈ t.violations v) :
    ¬ x.IsLastResort := by
  have htexts : ∀ u : FieldType, "object" ≠ u.tag ++ " specs" ∧ "no undeclared fields" ≠ u.tag ++ " specs" ∧
      "field to be present" ≠ u.tag ++ " specs" := by
    intro u
    cases u <;> decide
  have hslots : ∀ (slot : Slot) (u : FieldType), slot.expected ≠ u.tag ++ " specs" := by
    intro slot u
    cases slot <;> cases u <;> decide
  intro h
  obtain ⟨_, u, hexpected⟩ := h
  rcases cases_of_mem_violations hx with ⟨_, rfl⟩ | ⟨_, rfl⟩ | ⟨_, rfl⟩ | ⟨_, slot, _, rfl⟩
  · exact (htexts u).1 hexpected
  · exact (htexts u).2.1 hexpected
  · exact (htexts u).2.2 hexpected
  · exact hslots slot u hexpected

namespace Specs

/-! ## Errors of both readers -/

theorem type_of_ofPartial {t : FieldType} {v : Json} {s : Specs} (h : ofPartial t v = .ok s) : s.type = t := by
  cases v with
  | null => exact type_of_ofJson h
  | object members => exact type_of_ofJson h
  | _ => cases h

theorem violations_of_ofPartial_error {t : FieldType} {v : Json} {e : SchemaError} (h : ofPartial t v = .error e) :
    ∃ w, t.violations w ≠ [] ∧ e = .badSpecs t (t.violations w) := by
  cases v with
  | null => exact ⟨_, (ofJson_eq_error_iff t _ e).mp h⟩
  | object members => exact ⟨_, (ofJson_eq_error_iff t _ e).mp h⟩
  | bool b => exact ⟨.bool b, List.cons_ne_nil _ _, (Except.error.inj h).symm⟩
  | number n => exact ⟨.number n, List.cons_ne_nil _ _, (Except.error.inj h).symm⟩
  | string s => exact ⟨.string s, List.cons_ne_nil _ _, (Except.error.inj h).symm⟩
  | array items => exact ⟨.array items, List.cons_ne_nil _ _, (Except.error.inj h).symm⟩

/-- Stored specs are read exactly if the check of their shape finds nothing, and otherwise the error carries
what it found. Both readers give specs of the type asked for, and neither ever falls back on its last resort. -/
theorem shape_decides_reading (t : FieldType) (v : Json) :
    ((∃ s, ofJson t v = .ok s) ↔ t.violations v = []) ∧
    (∀ e, ofJson t v = .error e ↔ t.violations v ≠ [] ∧ e = .badSpecs t (t.violations v)) ∧
    (∀ s, ofJson t v = .ok s ∨ ofPartial t v = .ok s → s.type = t) ∧
    ∀ e, ofJson t v = .error e ∨ ofPartial t v = .error e →
      ∃ xs, e = .badSpecs t xs ∧ xs ≠ [] ∧ ∀ x ∈ xs, ¬ x.IsLastResort := by
  refine ⟨ofJson_ok_iff t v, ofJson_eq_error_iff t v, ?_, ?_⟩
  · intro s h
    rcases h with h | h
    · exact type_of_ofJson h
    · exact type_of_ofPartial h
  · intro e h
    have hchecked : ∃ w, t.violations w ≠ [] ∧ e = .badSpecs t (t.violations w) := by
      rcases h with h | h
      · exact ⟨v, (ofJson_eq_error_iff t v e).mp h⟩
      · exact violations_of_ofPartial_error h
    obtain ⟨w, hne, he⟩ := hchecked
    exact ⟨_, he, hne, fun _ => not_isLastResort_of_mem_violations⟩

/-- Specs with a member that is called like the specs as a whole: the report names the member. -/
theorem shape_decides_reading_undeclared :
    ofJson .json (.object [("$specs", .null)]) =
      .error (.badSpecs .json [.undeclared "$specs", .missing "maxSize"]) ∧
    ∃ xs, SchemaError.badSpecs .json [.undeclared "$specs", .missing "maxSize"] = .badSpecs .json xs ∧ xs ≠ [] ∧
      ∀ x ∈ xs, ¬ x.IsLastResort := by
  obtain ⟨_, herror, _, hreports⟩ := shape_decides_reading .json (.object [("$specs", .null)])
  have h : ofJson .json (.object [("$specs", .null)]) =
      .error (.badSpecs .json [.undeclared "$specs", .missing "maxSize"]) :=
    (herror _).mpr ⟨by decide, by decide⟩
  exact ⟨h, hreports _ (Or.inl h)⟩

end Specs

end TableSchema
