import TableSchema.Proofs.Specs.Overlay

/-!
# Reading settings

`ofPartial_merges`: settings are read exactly if all their members are declared and fit their slots. Then
every member has the value that is set or its default, and otherwise the error lists what is wrong with the
settings and nothing about defaults. `readers_agree`: settings, stored specs and plain decoding give the same
specs wherever more than one of them applies.
-/

namespace TableSchema

/-! ## Violations of one member -/

section
variable (members : List (String × Json))

theorem violation?_none_iff (d : Declared) : d.violation? members = none ↔
    (∀ w, members.lookup d.name = some w → d.slot.fits w = true) ∧
      (d.required = true → (members.lookup d.name).isSome = true) := by
  unfold Declared.violation?
  cases members.lookup d.name with
  | none => simp
  | some w => simp

theorem own_violation?_iff (d : Declared) (x : Violation) :
    (d.violation? members).filter (!·.isMissing) = some x ↔
      ∃ w, members.lookup d.name = some w ∧ d.slot.fits w = false ∧
        x = .misfit d.name d.slot (d.slot.found w) := by
  unfold Declared.violation?
  cases members.lookup d.name with
  | none =>
    cases d.required with
    | false => simp
    | true => simp [Option.filter, Violation.isMissing]
  | some w =>
    cases h : d.slot.fits w with
    | false =>
      have hkept : (some (Violation.misfit d.name d.slot (d.slot.found w))).filter (!·.isMissing) = some x ↔
          x = .misfit d.name d.slot (d.slot.found w) := Option.some_inj.trans eq_comm
      simpa [h] using hkept
    | true => simp [h]

end

namespace FieldType

/-- All members are declared and fit their slots. -/
def Allows (t : FieldType) (members : List (String × Json)) : Prop :=
  (∀ m ∈ members, t.declares m.1 = true) ∧
    ∀ d ∈ t.shape, ∀ w, members.lookup d.name = some w → d.slot.fits w = true

def HasRequired (t : FieldType) (members : List (String × Json)) : Prop :=
  ∀ d ∈ t.shape, d.required = true → (members.lookup d.name).isSome = true

instance (t : FieldType) (members : List (String × Json)) : Decidable (t.HasRequired members) :=
  inferInstanceAs (Decidable (∀ d ∈ t.shape, d.required = true → (members.lookup d.name).isSome = true))

/-! ## Violations of the members that are there -/

section
variable (t : FieldType) (members : List (String × Json))

theorem mem_ownViolations_iff (x : Violation) : x ∈ t.ownViolations members ↔
    (∃ m ∈ members, t.declares m.1 = false ∧ x = .undeclared m.1) ∨
    ∃ d ∈ t.shape, ∃ w, members.lookup d.name = some w ∧ d.slot.fits w = false ∧
      x = .misfit d.name d.slot (d.slot.found w) := by
  rw [ownViolations_eq, List.mem_append]
  apply or_congr
  · simp only [List.mem_map, List.mem_filter, mem_sortedNames, Bool.not_eq_true']
    apply Iff.intro
    · intro h
      obtain ⟨_, ⟨⟨m, hm, rfl⟩, hno⟩, rfl⟩ := h
      exact ⟨m, hm, hno, rfl⟩
    · intro h
      obtain ⟨m, hm, hno, rfl⟩ := h
      exact ⟨m.1, ⟨⟨m, hm, rfl⟩, hno⟩, rfl⟩
  · simp only [List.mem_filterMap, own_violation?_iff]

theorem ownViolations_eq_nil_iff : t.ownViolations members = [] ↔ t.Allows members := by
  rw [List.eq_nil_iff_forall_not_mem]
  simp only [mem_ownViolations_iff]
  apply Iff.intro
  · intro h
    refine ⟨?_, ?_⟩
    · intro m hm
      apply Bool.of_not_eq_false
      intro hno
      exact h _ (Or.inl ⟨m, hm, hno, rfl⟩)
    · intro d hd w hw
      apply Bool.of_not_eq_false
      intro hno
      exact h _ (Or.inr ⟨d, hd, w, hw, hno, rfl⟩)
  · intro h x hx
    rcases hx with ⟨m, hm, hno, _⟩ | ⟨d, hd, w, hw, hno, _⟩
    · rw [h.1 m hm] at hno
      cases hno
    · rw [h.2 d hd w hw] at hno
      cases hno

theorem violations_eq_nil_iff :
    t.violations (.object members) = [] ↔ t.Allows members ∧ t.HasRequired members := by
  simp only [violations_object_iff, violation?_none_iff, forall₂_and, Allows, HasRequired, and_assoc]

instance : Decidable (t.Allows members) :=
  decidable_of_iff _ (ownViolations_eq_nil_iff t members)

end

end FieldType

/-! ## Settings -/

namespace Specs

section
variable (t : FieldType) (members : List (String × Json))

theorem ofPartial_object :
    ofPartial t (.object members) = ofJson t (.object (overlay members (default t).members)) :=
  rfl

theorem ofPartial_object_iff (s : Specs) : ofPartial t (.object members) = .ok s ↔
    t.Allows members ∧ decode? t (.object members) = some s := by
  rw [ofPartial_object, ofJson_eq_ok_iff, violations_overlay, decode?_overlay, FieldType.ownViolations_eq_nil_iff]

theorem ofPartial_object_ok_iff : (∃ s, ofPartial t (.object members) = .ok s) ↔ t.Allows members := by
  rw [ofPartial_object, ofJson_ok_iff, violations_overlay, FieldType.ownViolations_eq_nil_iff]

theorem ofPartial_object_error_iff (e : SchemaError) : ofPartial t (.object members) = .error e ↔
    ¬ t.Allows members ∧ e = .badSpecs t (t.ownViolations members) := by
  rw [ofPartial_object, ofJson_eq_error_iff, violations_overlay, ne_eq, FieldType.ownViolations_eq_nil_iff]

theorem ofJson_object_iff (s : Specs) : ofJson t (.object members) = .ok s ↔
    t.HasRequired members ∧ ofPartial t (.object members) = .ok s := by
  rw [ofJson_eq_ok_iff, FieldType.violations_eq_nil_iff, ofPartial_object_iff]
  exact and_right_comm.trans and_comm

end

theorem ofPartial_not_object (t : FieldType) {v : Json} (hnull : v.isNull = false) (hobject : v.object? = none) :
    ofPartial t v = .error (.badSpecs t [.notAnObject v.kind]) := by
  cases v with
  | null => cases hnull
  | object members => cases hobject
  | _ => rfl

/-- Settings that are null or have no members give the defaults, and any others that are no object are
reported as that. An object is read exactly if its members are declared and fit; each member then has the
value that is set or its default. If it is not read, the error lists what is wrong with its own members. -/
theorem ofPartial_merges (t : FieldType) :
    ofPartial t .null = .ok (default t) ∧ ofPartial t (.object []) = .ok (default t) ∧
    (∀ v : Json, v.isNull = false → v.object? = none →
      ofPartial t v = .error (.badSpecs t [.notAnObject v.kind])) ∧
    ∀ members,
      ((∃ s, ofPartial t (.object members) = .ok s) ↔ t.Allows members) ∧
      (∀ s, ofPartial t (.object members) = .ok s ↔
        t.Allows members ∧ s.type = t ∧ ∀ d ∈ t.shape, s.value? d.name = t.valueIn? members d) ∧
      (∀ e, ofPartial t (.object members) = .error e ↔
        ¬ t.Allows members ∧ e = .badSpecs t (t.ownViolations members)) ∧
      ∀ x, x ∈ t.ownViolations members ↔
        (∃ m ∈ members, t.declares m.1 = false ∧ x = .undeclared m.1) ∨
        ∃ d ∈ t.shape, ∃ w, members.lookup d.name = some w ∧ d.slot.fits w = false ∧
          x = .misfit d.name d.slot (d.slot.found w) := by
  have hdefault := ofJson_default t
  refine ⟨hdefault, ?_, fun v => ofPartial_not_object t, ?_⟩
  · rw [ofPartial_object, overlay_nil]
    exact hdefault
  · intro members
    refine ⟨ofPartial_object_ok_iff t members, ?_, ofPartial_object_error_iff t members,
      t.mem_ownViolations_iff members⟩
    intro s
    rw [ofPartial_object_iff, decode?_object_iff]

theorem ofPartial_merges_min :
    ofPartial .number (.bool true) = .error (.badSpecs .number [.notAnObject .bool]) ∧
    ofPartial .number (.object [("min", .ofInt 3)]) = .ok (.number { min := some (Double.ofInt 3) }) := by
  obtain ⟨_, _, hother, hobject⟩ := ofPartial_merges .number
  have hallows : FieldType.number.Allows [("min", .ofInt 3)] := by decide
  have hvalues : ∀ d ∈ FieldType.number.shape, (Specs.number { min := some (Double.ofInt 3) }).value? d.name =
      FieldType.number.valueIn? [("min", .ofInt 3)] d := by
    decide
  exact ⟨hother (.bool true) rfl rfl, ((hobject _).2.1 _).mpr ⟨hallows, rfl, hvalues⟩⟩

/-- Stored specs are settings that have all required members, and what settings give is what plain decoding
gives. -/
theorem readers_agree (t : FieldType) (v : Json) (s : Specs) :
    (ofJson t v = .ok s ↔ ∃ members, v = .object members ∧ t.HasRequired members ∧ ofPartial t v = .ok s) ∧
    (∀ members, v = .object members → ofPartial t v = .ok s → decode? t v = some s) := by
  refine ⟨?_, ?_⟩
  · apply Iff.intro
    · intro h
      obtain ⟨members, rfl⟩ := object_of_violations ((ofJson_eq_ok_iff t v s).mp h).1
      exact ⟨members, rfl, (ofJson_object_iff t members s).mp h⟩
    · intro h
      obtain ⟨members, rfl, h⟩ := h
      exact (ofJson_object_iff t members s).mpr h
  · intro members hv h
    subst hv
    exact ((ofPartial_object_iff t members s).mp h).2

theorem readers_agree_min :
    ofPartial .number (.object [("min", .ofInt 3), ("max", .null)]) =
      .ok (.number { min := some (Double.ofInt 3) }) ∧
    ofJson .number (.object [("min", .ofInt 3), ("max", .null)]) =
      .ok (.number { min := some (Double.ofInt 3) }) ∧
    decode? .number (.object [("min", .ofInt 3), ("max", .null)]) =
      some (.number { min := some (Double.ofInt 3) }) := by
  have hpartial : ofPartial .number (.object [("min", .ofInt 3), ("max", .null)]) =
      .ok (.number { min := some (Double.ofInt 3) }) := rfl
  have hrequired : FieldType.number.HasRequired [("min", .ofInt 3), ("max", .null)] := by decide
  obtain ⟨hstored, hplain⟩ := readers_agree .number (.object [("min", .ofInt 3), ("max", .null)])
    (.number { min := some (Double.ofInt 3) })
  exact ⟨hpartial, hstored.mpr ⟨_, rfl, hrequired, hpartial⟩, hplain _ rfl hpartial⟩

end Specs

end TableSchema
