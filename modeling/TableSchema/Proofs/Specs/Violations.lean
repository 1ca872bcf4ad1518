import TableSchema.Proofs.Specs.Verdict
import TableSchema.Proofs.Text.Named

/-!
# Every violation is reported once

The check of a shape reports each name that is not declared and each declared member with which something is
wrong. `violations_once`: there is one violation for each of them and none beside, so that putting one of them
right takes its violation away and leaves the others as they are.
-/

namespace TableSchema

/-! ## Declared members -/

namespace Declared

def Fails (d : Declared) (members : List (String × Json)) : Prop :=
  (members.lookup d.name = none ∧ d.required = true) ∨
    ∃ w, members.lookup d.name = some w ∧ d.slot.fits w = false

def complaint (d : Declared) (members : List (String × Json)) : Violation :=
  match members.lookup d.name with
  | some w => .misfit d.name d.slot (d.slot.found w)
  | none => .missing d.name

section
variable (d : Declared) (members : List (String × Json))

theorem isSome_violation?_iff : (d.violation? members).isSome = true ↔ d.Fails members := by
  unfold violation? Fails
  cases members.lookup d.name with
  | none => cases d.required <;> simp
  | some w => cases d.slot.fits w <;> simp

instance : Decidable (d.Fails members) :=
  decidable_of_iff _ (isSome_violation?_iff d members)

theorem violation?_eq : d.violation? members = if d.Fails members then some (d.complaint members) else none := by
  simp only [← isSome_violation?_iff]
  unfold violation? complaint
  cases members.lookup d.name with
  | none => cases d.required <;> simp
  | some w => by_cases hfits : d.slot.fits w = true <;> simp [hfits]

@[simp] theorem field_complaint : (d.complaint members).field = d.name := by
  unfold complaint
  split <;> rfl

theorem complaint_ne_undeclared (name : String) : d.complaint members ≠ .undeclared name := by
  unfold complaint
  split <;> simp

theorem filter_violation? (name : String) : (d.violation? members).filter (·.field != name) =
    if d.name = name then none else d.violation? members := by
  rw [violation?_eq]
  by_cases hfails : d.Fails members
  · by_cases hname : d.name = name <;> simp [hfails, hname, Option.filter]
  · simp [hfails]

theorem violation?_congr {members' : List (String × Json)} (h : members'.lookup d.name = members.lookup d.name) :
    d.violation? members' = d.violation? members := by
  unfold violation?
  rw [h]

end

end Declared

namespace FieldType

theorem nodup_names_shape (t : FieldType) : (t.shape.map (·.name)).Nodup := by
  cases t <;> decide

theorem declares_of_mem {t : FieldType} {d : Declared} (hd : d ∈ t.shape) : t.declares d.name = true :=
  List.any_eq_true.mpr ⟨d, hd, beq_self_eq_true d.name⟩

section
variable (t : FieldType) (members : List (String × Json))

/-! ## One violation for each -/

def undeclaredNames : List String :=
  (sortedNames (members.map (·.1))).filter (!t.declares ·)

theorem mem_undeclaredNames_iff (name : String) :
    name ∈ t.undeclaredNames members ↔ t.declares name = false ∧ name ∈ members.map (·.1) := by
  unfold undeclaredNames
  rw [List.mem_filter, mem_sortedNames, Bool.not_eq_true', and_comm]

theorem undeclaredNames_sorted : (t.undeclaredNames members).Pairwise (· < ·) :=
  (sortedNames_sorted _).filter _

def failing : List Declared :=
  t.shape.filter (·.Fails members)

theorem mem_failing_iff (d : Declared) : d ∈ t.failing members ↔ d ∈ t.shape ∧ d.Fails members := by
  simp [failing]

theorem filterMap_violation? : t.shape.filterMap (·.violation? members) =
    (t.failing members).map (·.complaint members) := by
  unfold failing
  induction t.shape with
  | nil => rfl
  | cons d ds ih => by_cases hd : d.Fails members <;> simp [d.violation?_eq, hd, ih]

theorem violations_eq : t.violations (.object members) =
    (t.undeclaredNames members).map .undeclared ++ (t.failing members).map (·.complaint members) := by
  rw [← filterMap_violation?]
  rfl

theorem declares_of_undeclared {name : String} (h : .undeclared name ∈ t.violations (.object members)) :
    t.declares name = false := by
  rw [violations_eq, List.mem_append] at h
  rcases h with h | h
  · obtain ⟨_, hname, heq⟩ := List.mem_map.mp h
    cases heq
    exact ((t.mem_undeclaredNames_iff members name).mp hname).1
  · obtain ⟨d, _, heq⟩ := List.mem_map.mp h
    exact absurd heq (d.complaint_ne_undeclared members name)

theorem nodup_fields : ((t.violations (.object members)).map (·.field)).Nodup := by
  have hundeclared : ((t.undeclaredNames members).map Violation.undeclared).map (·.field) =
      t.undeclaredNames members := by
    simp [Violation.field, Function.comp_def]
  have hdeclared : ((t.failing members).map (·.complaint members)).map (·.field) =
      (t.failing members).map (·.name) := by
    simp [Function.comp_def]
  rw [violations_eq, List.map_append, hundeclared, hdeclared, List.nodup_append]
  refine ⟨nodup_of_sorted (t.undeclaredNames_sorted members),
    t.nodup_names_shape.sublist (List.filter_sublist.map _), ?_⟩
  -- a name is declared or not, so the two parts have none in common
  intro name hname name' hname'
  obtain ⟨d, hd, rfl⟩ := List.mem_map.mp hname'
  rintro rfl
  have hno := ((t.mem_undeclaredNames_iff members _).mp hname).1
  rw [declares_of_mem ((t.mem_failing_iff members d).mp hd).1] at hno
  cases hno

/-! ## Putting a member right -/

theorem filter_violations (name : String) : (t.violations (.object members)).filter (·.field != name) =
    ((t.undeclaredNames members).filter (· != name)).map .undeclared ++
      t.shape.filterMap fun d => if d.name = name then none else d.violation? members := by
  simp only [violations, List.filter_append, List.filter_filterMap, List.filter_map, Declared.filter_violation?]
  rfl

theorem violations_eq_filter {members' : List (String × Json)} {name : String}
    (hundeclared : ∀ x, t.declares x = false → (x ∈ members'.map (·.1) ↔ x ∈ members.map (·.1) ∧ x ≠ name))
    (hdeclared : ∀ d ∈ t.shape, d.violation? members' = if d.name = name then none else d.violation? members) :
    t.violations (.object members') = (t.violations (.object members)).filter (·.field != name) := by
  have hnames : t.undeclaredNames members' = (t.undeclaredNames members).filter (· != name) := by
    refine eq_of_sorted (t.undeclaredNames_sorted members') ((t.undeclaredNames_sorted members).filter _) ?_
    intro x
    rw [List.mem_filter, mem_undeclaredNames_iff, mem_undeclaredNames_iff, and_assoc, bne_iff_ne]
    exact and_congr_right (hundeclared x)
  rw [filter_violations, ← hnames, ← List.filterMap_congr hdeclared]
  rfl

theorem violations_without {name : String} (h : t.declares name = false) :
    t.violations (.object (members.filter (·.1 != name))) =
      (t.violations (.object members)).filter (·.field != name) := by
  apply violations_eq_filter
  · intro x _
    simp only [List.mem_map, List.mem_filter, bne_iff_ne]
    apply Iff.intro
    · rintro ⟨m, ⟨hm, hne⟩, rfl⟩
      exact ⟨⟨m, hm, rfl⟩, hne⟩
    · rintro ⟨⟨m, hm, rfl⟩, hne⟩
      exact ⟨m, ⟨hm, hne⟩, rfl⟩
  · intro d hd
    have hne : d.name ≠ name := by
      rintro rfl
      rw [declares_of_mem hd] at h
      cases h
    rw [if_neg hne]
    apply d.violation?_congr
    rw [lookup_filter_name (· != name), if_pos (bne_iff_ne.mpr hne)]

theorem violations_insertMember {d : Declared} (hd : d ∈ t.shape) {w : Json} (hw : d.slot.fits w = true) :
    t.violations (.object (Json.insertMember d.name w members)) =
      (t.violations (.object members)).filter (·.field != d.name) := by
  rw [insertMember_eq_putNamed]
  apply violations_eq_filter
  · intro x hx
    have hne : x ≠ d.name := by
      rintro rfl
      rw [declares_of_mem hd] at hx
      cases hx
    simp [map_fst_putNamed, mem_insertName, hne]
  · intro d' hd'
    by_cases hname : d'.name = d.name
    · -- names are declared once, so this is the member itself
      have hsame : d' = d := List.inj_on_of_nodup_map t.nodup_names_shape hd' hd hname
      subst hsame
      simp [Declared.violation?, lookup_putNamed, hw]
    · rw [if_neg hname]
      apply d'.violation?_congr
      rw [lookup_putNamed, if_neg hname]

end

/-- An object is reported on as follows. First come the names that are not declared, sorted, then in declared
order the members that are required and not there or that do not fit, each with one violation. Violations name
distinct fields. There are none exactly if all members are declared and fit and the required ones are there.
Taking out a member that is not declared, or giving a declared one a value that fits, takes its violation away
and leaves the others. -/
theorem violations_once (t : FieldType) (members : List (String × Json)) :
    (∃ (names : List String) (ds : List Declared),
      t.violations (.object members) = names.map .undeclared ++ ds.map (·.complaint members) ∧
      names.Pairwise (· < ·) ∧
      (∀ name, name ∈ names ↔ t.declares name = false ∧ name ∈ members.map (·.1)) ∧
      ds.Sublist t.shape ∧ ∀ d, d ∈ ds ↔ d ∈ t.shape ∧ d.Fails members) ∧
    ((t.violations (.object members)).map (·.field)).Nodup ∧
    (t.violations (.object members) = [] ↔ t.Allows members ∧ t.HasRequired members) ∧
    (∀ before name after, t.violations (.object members) = before ++ .undeclared name :: after →
      t.violations (.object (members.filter (·.1 != name))) = before ++ after) ∧
    ∀ before x after, t.violations (.object members) = before ++ x :: after →
      ∀ d ∈ t.shape, d.name = x.field → ∀ w, d.slot.fits w = true →
        t.violations (.object (Json.insertMember d.name w members)) = before ++ after := by
  have hn := t.nodup_fields members
  refine ⟨?each, hn, t.violations_eq_nil_iff members, ?undeclared, ?declared⟩
  case each =>
    exact ⟨t.undeclaredNames members, t.failing members, t.violations_eq members,
      t.undeclaredNames_sorted members, t.mem_undeclaredNames_iff members, List.filter_sublist,
      t.mem_failing_iff members⟩
  case undeclared =>
    intro before name after h
    have hmem : Violation.undeclared name ∈ t.violations (.object members) := by simp [h]
    rw [violations_without t members (declares_of_undeclared t members hmem), h]
    rw [h] at hn
    exact filter_key_ne hn
  case declared =>
    intro before x after h d hd hfield w hw
    rw [violations_insertMember t members hd hw, h, hfield]
    rw [h] at hn
    exact filter_key_ne hn

example : number.violations (.object [("min", .bool true), ("to", .null), ("from", .null)]) =
    [.undeclared "from", .undeclared "to", .misfit "min" .numberOrNull "bool", .missing "max"] := by decide

end FieldType

end TableSchema
