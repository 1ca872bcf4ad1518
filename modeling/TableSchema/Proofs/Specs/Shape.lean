import TableSchema.Proofs.Text.Names
import TableSchema.Specs.Reading

/-!
# Specs of the right shape can be read

`ofJson_ok_iff`: specs are read exactly when their shape has no violation. The last resort of the reader,
an error for specs of the right shape, never happens.
-/

namespace TableSchema

/-! ## No violation -/

theorem violations_object_iff (t : FieldType) (members : List (String × Json)) :
    t.violations (.object members) = [] ↔
      (∀ m ∈ members, t.declares m.1 = true) ∧ ∀ d ∈ t.shape, d.violation? members = none := by
  simp only [FieldType.violations, List.append_eq_nil_iff, List.map_eq_nil_iff, List.filter_eq_nil_iff,
    List.filterMap_eq_nil_iff, mem_sortedNames, List.mem_map]
  apply Iff.intro
  · intro h
    refine ⟨?_, h.2⟩
    intro m hm
    have := h.1 m.1 ⟨m, hm, rfl⟩
    simpa using this
  · intro h
    refine ⟨?_, h.2⟩
    intro name hname
    obtain ⟨m, hm, hn⟩ := hname
    rw [← hn, h.1 m hm]
    decide

theorem object_of_violations {t : FieldType} {v : Json} (h : t.violations v = []) :
    ∃ members, v = .object members := by
  cases v with
  | object members => exact ⟨members, rfl⟩
  | _ => cases h

theorem fits_of_violation?_none {d : Declared} {members : List (String × Json)}
    (h : d.violation? members = none) {v : Json} (hv : members.lookup d.name = some v) :
    d.slot.fits v = true := by
  unfold Declared.violation? at h
  simp only [hv] at h
  by_cases hf : d.slot.fits v = true
  · exact hf
  · rw [if_neg hf] at h
    cases h

/-! ## What fits a slot can be read -/

theorem mapM_string?_of_all {items : List Json} (h : items.all Json.isString = true) :
    (items.mapM Json.string?).isSome = true := by
  induction items with
  | nil => rfl
  | cons v items ih =>
    rw [List.all_cons, Bool.and_eq_true] at h
    obtain ⟨ss, hss⟩ := Option.isSome_iff_exists.mp (ih h.2)
    cases v with
    | string s => rw [List.mapM_cons, hss]; rfl
    | _ => cases h.1

section
variable {v : Json}

theorem bool?_of_fits (h : Slot.bool.fits v = true) : (Json.bool? v).isSome = true := by
  cases v with
  | bool b => rfl
  | _ => cases h

theorem string?_of_fits (h : Slot.string.fits v = true) : (Json.string? v).isSome = true := by
  cases v with
  | string s => rfl
  | _ => cases h

theorem number?_of_fits (h : Slot.numberOrNull.fits v = true) :
    (Json.nullOr Json.double? v).isSome = true := by
  cases v with
  | null => rfl
  | number n => rfl
  | _ => cases h

theorem double?_of_fits (h : Slot.nonNegativeNumber.fits v = true) : (Json.double? v).isSome = true := by
  cases v with
  | number n => rfl
  | _ => cases h

theorem pattern?_of_fits (h : Slot.patternOrNull.fits v = true) :
    (Json.nullOr Json.string? v).isSome = true := by
  cases v with
  | null => rfl
  | string s => rfl
  | _ => cases h

theorem date?_of_fits (h : Slot.dateOrNull.fits v = true) :
    (Json.nullOr Instant.ofJson? v).isSome = true := by
  unfold Slot.fits at h
  cases v with
  | null => rfl
  | _ =>
    unfold Json.nullOr
    rw [Option.isSome_map]
    simpa [Json.isNull] using h

theorem strings?_of_fits (h : Slot.strings.fits v = true) : (Json.strings? v).isSome = true := by
  cases v with
  | array items => exact mapM_string?_of_all h
  | _ => cases h

end

theorem readMember_object {α : Type} (members : List (String × Json)) (position : Nat) (name : String)
    (absent : α) (read : Json → Option α) :
    (Json.object members).readMember position name absent read =
      match members.lookup name with
      | some w => read w
      | none => some absent :=
  rfl

/-- A reader that takes whatever fits its slot reads the member of specs that have the right shape. -/
theorem readMember_of_shape {α : Type} {t : FieldType} {members : List (String × Json)}
    (h : t.violations (.object members) = []) {d : Declared} (hd : d ∈ t.shape) {read : Json → Option α}
    (hread : ∀ v, d.slot.fits v = true → (read v).isSome = true) (position : Nat) (absent : α) :
    ∃ a, (Json.object members).readMember position d.name absent read = some a := by
  have hnone := ((violations_object_iff t members).mp h).2 d hd
  rw [readMember_object]
  cases hv : members.lookup d.name with
  | none => exact ⟨absent, rfl⟩
  | some v => exact Option.isSome_iff_exists.mp (hread v (fits_of_violation?_none hnone hv))

section
variable {t : FieldType} {members : List (String × Json)} (h : t.violations (.object members) = [])
  (name : String) (required : Bool) (position : Nat)

include h

theorem bool_read (absent : Bool) (hd : ⟨name, .bool, required⟩ ∈ t.shape) :
    ∃ b, (Json.object members).readMember position name absent Json.bool? = some b :=
  readMember_of_shape h hd (fun _ => bool?_of_fits) position absent

theorem string_read (absent : String) (hd : ⟨name, .string, required⟩ ∈ t.shape) :
    ∃ s, (Json.object members).readMember position name absent Json.string? = some s :=
  readMember_of_shape h hd (fun _ => string?_of_fits) position absent

theorem bound_read (hd : ⟨name, .numberOrNull, required⟩ ∈ t.shape) :
    ∃ x, (Json.object members).readMember position name none (Json.nullOr Json.double?) = some x :=
  readMember_of_shape h hd (fun _ => number?_of_fits) position none

theorem size_read (absent : Double) (hd : ⟨name, .nonNegativeNumber, required⟩ ∈ t.shape) :
    ∃ x, (Json.object members).readMember position name absent Json.double? = some x :=
  readMember_of_shape h hd (fun _ => double?_of_fits) position absent

theorem pattern_read (hd : ⟨name, .patternOrNull, required⟩ ∈ t.shape) :
    ∃ p, (Json.object members).readMember position name none (Json.nullOr Json.string?) = some p :=
  readMember_of_shape h hd (fun _ => pattern?_of_fits) position none

theorem date_read (hd : ⟨name, .dateOrNull, required⟩ ∈ t.shape) :
    ∃ i, (Json.object members).readMember position name none (Json.nullOr Instant.ofJson?) = some i :=
  readMember_of_shape h hd (fun _ => date?_of_fits) position none

theorem strings_read (hd : ⟨name, .strings, required⟩ ∈ t.shape) :
    ∃ ss, (Json.object members).readMember position name [] Json.strings? = some ss :=
  readMember_of_shape h hd (fun _ => strings?_of_fits) position []

theorem domains_read (hshape : t.shape = domainShape) :
    ∃ s, Specs.decodeDomains? (.object members) = some s := by
  obtain ⟨allowed, ha⟩ := strings_read h "allowedDomains" false 0 (by rw [hshape]; decide)
  obtain ⟨except, he⟩ := strings_read h "exceptDomains" false 1 (by rw [hshape]; decide)
  obtain ⟨empty, hm⟩ := bool_read h "mayBeEmpty" false 2 true (by rw [hshape]; decide)
  unfold Specs.decodeDomains?
  rw [ha, he, hm]
  exact ⟨_, rfl⟩

end

theorem decode?_of_violations {t : FieldType} {v : Json} (h : t.violations v = []) :
    ∃ s, Specs.decode? t v = some s := by
  obtain ⟨members, rfl⟩ := object_of_violations h
  have hdec : Specs.decode? t (.object members) = Specs.decodeMembers? t (.object members) := rfl
  rw [hdec]
  cases t with
  | boolean =>
    obtain ⟨only, ho⟩ := bool_read h "onlyTrue" true 0 false (by decide)
    unfold Specs.decodeMembers?
    rw [ho]
    exact ⟨_, rfl⟩
  | string =>
    obtain ⟨min, hmin⟩ := bound_read h "lengthMin" true 0 (by decide)
    obtain ⟨max, hmax⟩ := bound_read h "lengthMax" true 1 (by decide)
    obtain ⟨empty, he⟩ := bool_read h "mayBeEmpty" false 2 true (by decide)
    obtain ⟨pattern, hp⟩ := pattern_read h "pattern" false 3 (by decide)
    unfold Specs.decodeMembers?
    rw [hmin, hmax, he, hp]
    exact ⟨_, rfl⟩
  | number =>
    obtain ⟨min, hmin⟩ := bound_read h "min" true 0 (by decide)
    obtain ⟨max, hmax⟩ := bound_read h "max" true 1 (by decide)
    obtain ⟨empty, he⟩ := bool_read h "mayBeEmpty" false 2 true (by decide)
    unfold Specs.decodeMembers?
    rw [hmin, hmax, he]
    exact ⟨_, rfl⟩
  | date =>
    obtain ⟨min, hmin⟩ := date_read h "min" false 0 (by decide)
    obtain ⟨max, hmax⟩ := date_read h "max" false 1 (by decide)
    obtain ⟨empty, he⟩ := bool_read h "mayBeEmpty" false 2 true (by decide)
    unfold Specs.decodeMembers?
    rw [hmin, hmax, he]
    exact ⟨_, rfl⟩
  | email =>
    obtain ⟨s, hs⟩ := domains_read h rfl
    exact ⟨.email s, by unfold Specs.decodeMembers?; rw [hs]; rfl⟩
  | json =>
    obtain ⟨size, hs⟩ := size_read h "maxSize" true 0 defaultMaxSize (by decide)
    obtain ⟨empty, he⟩ := bool_read h "mayBeEmpty" false 1 true (by decide)
    unfold Specs.decodeMembers?
    rw [hs, he]
    exact ⟨_, rfl⟩
  | select =>
    obtain ⟨values, hv⟩ := strings_read h "allowedValues" false 0 (by decide)
    obtain ⟨multiple, hm⟩ := bool_read h "multiple" false 1 false (by decide)
    obtain ⟨empty, he⟩ := bool_read h "mayBeEmpty" false 2 true (by decide)
    unfold Specs.decodeMembers?
    rw [hv, hm, he]
    exact ⟨_, rfl⟩
  | url =>
    obtain ⟨s, hs⟩ := domains_read h rfl
    exact ⟨.url s, by unfold Specs.decodeMembers?; rw [hs]; rfl⟩
  | relation =>
    obtain ⟨collection, hc⟩ := string_read h "collection" false 0 "" (by decide)
    obtain ⟨multiple, hm⟩ := bool_read h "multiple" false 1 false (by decide)
    obtain ⟨empty, he⟩ := bool_read h "mayBeEmpty" false 2 true (by decide)
    unfold Specs.decodeMembers?
    rw [hc, hm, he]
    exact ⟨_, rfl⟩

namespace Specs

theorem ofJson_eq_ok_iff (t : FieldType) (v : Json) (s : Specs) :
    ofJson t v = .ok s ↔ t.violations v = [] ∧ decode? t v = some s := by
  unfold ofJson
  cases h : t.violations v with
  | nil =>
    obtain ⟨s', hs⟩ := decode?_of_violations h
    rw [hs]
    simp
  | cons x xs => simp

theorem ofJson_ok_iff (t : FieldType) (v : Json) : (∃ s, ofJson t v = .ok s) ↔ t.violations v = [] := by
  apply Iff.intro
  · intro h
    obtain ⟨s, hs⟩ := h
    exact ((ofJson_eq_ok_iff t v s).mp hs).1
  · intro h
    obtain ⟨s, hs⟩ := decode?_of_violations h
    exact ⟨s, (ofJson_eq_ok_iff t v s).mpr ⟨h, hs⟩⟩

theorem ofJson_eq_error_iff (t : FieldType) (v : Json) (e : SchemaError) :
    ofJson t v = .error e ↔ t.violations v ≠ [] ∧ e = .badSpecs t (t.violations v) := by
  unfold ofJson
  cases h : t.violations v with
  | nil =>
    obtain ⟨s, hs⟩ := decode?_of_violations h
    rw [hs]
    simp
  | cons x xs =>
    simp only [Except.error.injEq, ne_eq, reduceCtorEq, not_false_eq_true, true_and]
    exact eq_comm

end Specs

end TableSchema
