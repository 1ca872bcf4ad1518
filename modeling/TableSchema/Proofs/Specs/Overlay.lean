import TableSchema.Proofs.Specs.Members

/-!
# Settings laid over defaults

Defaults supply every member that settings leave out, in a form that fits its slot and is read as the value
that plain decoding has for an absent member. So the check of the merged members sees what is wrong with the
settings themselves and nothing else (`violations_overlay`), and decoding does not tell the merged members from
the settings (`decode?_overlay`).
-/

namespace TableSchema

/-! ## Lookups -/

theorem lookup_filter_name {β : Type} (p : String → Bool) (l : List (String × β)) (name : String) :
    (l.filter fun m => p m.1).lookup name = if p name = true then l.lookup name else none := by
  induction l with
  | nil => simp
  | cons m rest ih =>
    obtain ⟨k, v⟩ := m
    by_cases hname : name = k
    · subst hname
      by_cases hp : p name = true
      · simp [hp]
      · simp [hp, ih]
    · by_cases hp : p k = true
      · simp [hp, List.lookup_cons, beq_false_of_ne hname, ih]
      · simp [hp, List.lookup_cons, beq_false_of_ne hname, ih]

namespace Specs

theorem lookup_overlay (members base : List (String × Json)) (name : String) :
    (overlay members base).lookup name = (members.lookup name).or (base.lookup name) := by
  unfold overlay
  rw [List.lookup_append, lookup_filter_name fun k => (members.lookup k).isNone]
  cases members.lookup name with
  | none => rfl
  | some v => rfl

theorem overlay_nil (base : List (String × Json)) : overlay [] base = base := by
  simp [overlay]

/-! ## Defaults -/

theorem default_sound (t : FieldType) : (default t).Sound := by
  cases t with
  | string =>
    intro p hp
    cases hp
  | date => exact List.forall_mem_nil _
  | json => exact Double.ofInt_isNonNegative (by decide)
  | _ => trivial

theorem default_storable (t : FieldType) : (default t).Storable := by
  have hnone : (default t).dateBounds = [] := by cases t <;> rfl
  unfold Storable
  rw [hnone]
  exact List.forall_mem_nil _

theorem cut_default (t : FieldType) : (default t).cut = default t := by
  cases t <;> rfl

theorem ofJson_default (t : FieldType) : ofJson t (default t).toJson = .ok (default t) := by
  have h := ofJson_toJson (default_sound t) (default_storable t)
  rw [type_default, cut_default] at h
  exact h

theorem map_fst_members (s : Specs) : s.members.map (·.1) = s.type.shape.map (·.name) := by
  cases s <;> rfl

theorem lookup_members {s : Specs} {d : Declared} (hd : d ∈ s.type.shape) :
    ∃ v, s.members.lookup d.name = some v := by
  have hname : d.name ∈ s.members.map (·.1) := by
    rw [map_fst_members]
    exact List.mem_map_of_mem hd
  obtain ⟨m, hm, hfst⟩ := List.mem_map.mp hname
  rw [← Option.isSome_iff_exists, List.lookup_isSome_iff]
  exact ⟨m, hm, by simp [hfst]⟩

theorem default_fits {t : FieldType} {d : Declared} (hd : d ∈ t.shape) :
    ∃ v, (default t).members.lookup d.name = some v ∧ d.slot.fits v = true := by
  have htype := type_default t
  obtain ⟨v, hv⟩ := lookup_members (s := default t) (htype.symm ▸ hd)
  have hnone := (shape_members_iff _ (default_sound t)).mpr (default_storable t) d (htype.symm ▸ hd)
  exact ⟨v, hv, (violation?_of_member hv).mp hnone⟩

/-! ## Values of merged members -/

theorem default_read {t : FieldType} {d : Declared} (hd : d ∈ t.shape) {w : Json}
    (hw : (default t).members.lookup d.name = some w) : d.slot.read? w = (default t).value? d.name := by
  have hdec : decode? t (.object (default t).members) = some (default t) :=
    ((ofJson_eq_ok_iff t _ _).mp (ofJson_default t)).2
  have hvalue := ((decode?_object_iff _ t _).mp hdec).2 d hd
  unfold FieldType.valueIn? at hvalue
  rw [hw] at hvalue
  exact hvalue.symm

theorem valueIn?_overlay {t : FieldType} {d : Declared} (hd : d ∈ t.shape) (members : List (String × Json)) :
    t.valueIn? (overlay members (default t).members) d = t.valueIn? members d := by
  obtain ⟨w, hw, _⟩ := default_fits hd
  unfold FieldType.valueIn?
  rw [lookup_overlay, hw]
  cases members.lookup d.name with
  | none => exact default_read hd hw
  | some v => rfl

theorem decode?_overlay (t : FieldType) (members : List (String × Json)) :
    decode? t (.object (overlay members (default t).members)) = decode? t (.object members) := by
  apply Option.ext
  intro s
  rw [decode?_object_iff, decode?_object_iff]
  apply and_congr_right
  intro _
  apply forall₂_congr
  intro d hd
  rw [valueIn?_overlay hd]

end Specs

/-! ## The check of merged members -/

def Violation.isMissing : Violation → Bool
  | missing _ => true
  | _ => false

/-- What is wrong with the members that are there. -/
def FieldType.ownViolations (t : FieldType) (members : List (String × Json)) : List Violation :=
  (t.violations (.object members)).filter (!·.isMissing)

theorem undeclared_overlay (t : FieldType) (members : List (String × Json)) :
    (sortedNames ((Specs.overlay members (Specs.default t).members).map (·.1))).filter (!t.declares ·) =
      (sortedNames (members.map (·.1))).filter (!t.declares ·) := by
  apply filter_sortedNames_congr
  intro name hname
  have hbase : ∀ m ∈ (Specs.default t).members, m.1 ≠ name := by
    intro m hm heq
    have hdeclared := declares_members (Specs.default t) m hm
    rw [Specs.type_default, heq] at hdeclared
    simp [hdeclared] at hname
  unfold Specs.overlay
  rw [List.map_append, List.mem_append]
  apply or_iff_left
  intro hmem
  obtain ⟨m, hm, heq⟩ := List.mem_map.mp hmem
  exact hbase m (List.mem_filter.mp hm).1 heq

theorem violation?_overlay {t : FieldType} {d : Declared} (hd : d ∈ t.shape) (members : List (String × Json)) :
    d.violation? (Specs.overlay members (Specs.default t).members) =
      (d.violation? members).filter (!·.isMissing) := by
  obtain ⟨w, hw, hfits⟩ := Specs.default_fits hd
  unfold Declared.violation?
  rw [Specs.lookup_overlay, hw]
  cases members.lookup d.name with
  | none =>
    simp only [Option.none_or, hfits, if_true]
    cases d.required with
    | false => rfl
    | true => rfl
  | some v =>
    simp only [Option.some_or]
    cases d.slot.fits v with
    | false => rfl
    | true => rfl

theorem FieldType.ownViolations_eq (t : FieldType) (members : List (String × Json)) :
    t.ownViolations members =
      ((sortedNames (members.map (·.1))).filter (!t.declares ·)).map .undeclared ++
        t.shape.filterMap fun d => (d.violation? members).filter (!·.isMissing) := by
  have hundeclared : ∀ names : List String,
      (names.map Violation.undeclared).filter (!·.isMissing) = names.map .undeclared := by
    intro names
    apply List.filter_eq_self.mpr
    intro x hx
    obtain ⟨name, _, rfl⟩ := List.mem_map.mp hx
    rfl
  simp only [ownViolations, violations]
  rw [List.filter_append, List.filter_filterMap, hundeclared]

/-- The check of the merged members sees what is wrong with the settings, and nothing else. -/
theorem violations_overlay (t : FieldType) (members : List (String × Json)) :
    t.violations (.object (Specs.overlay members (Specs.default t).members)) = t.ownViolations members := by
  have hdeclared : t.shape.filterMap (·.violation? (Specs.overlay members (Specs.default t).members)) =
      t.shape.filterMap fun d => (d.violation? members).filter (!·.isMissing) :=
    List.filterMap_congr fun d hd => violation?_overlay hd members
  rw [FieldType.ownViolations_eq, ← undeclared_overlay, ← hdeclared]
  rfl

end TableSchema
