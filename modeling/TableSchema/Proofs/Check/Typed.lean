import TableSchema.Proofs.Check.Agreement
import TableSchema.Proofs.StoredForm

/-!
# Checking fields that were read

Fields that were read are checked in their stored form. `report_ofFields_iff`: besides keys, only date
bounds that cannot be stored make them fail.
-/

namespace TableSchema

theorem Check.fieldChecks_toJson {f : StoredField} (hs : f.Sound) (keys : List String) (i : Nat) :
    (Check.fieldChecks keys i f.toJson).wrapper = true ∧
    (Check.fieldChecks keys i f.toJson).base = true ∧
    ((Check.fieldChecks keys i f.toJson).specs = true ↔ f.Storable) := by
  have hbase : (Check.fieldChecks keys i f.toJson).base =
      (StoredField.itemMembers? f.toJson).any Check.baseOk := rfl
  have hspecs : (Check.fieldChecks keys i f.toJson).specs =
      (StoredField.itemMembers? f.toJson).any Check.specsOk := rfl
  rw [hbase, hspecs, f.itemMembers?_toJson]
  exact ⟨f.wrapperOk_toJson hs.order, f.item.baseOk_members, Descriptor.specsOk_members_iff hs.specs⟩

theorem Check.keys_toJson (fields : List StoredField) :
    Check.keys (fields.map (·.toJson)) = fields.map (·.key) := by
  unfold Check.keys
  induction fields with
  | nil => rfl
  | cons f fields ih =>
    rw [List.map_cons, List.filterMap_cons_some f.itemKey?_toJson, ih, List.map_cons]

theorem Report.ofFields_getElem? (fields : List StoredField) (i : Nat) :
    (Report.ofFields fields).fields[i]? =
      fields[i]?.map fun f => Check.fieldChecks (fields.map (·.key)) i f.toJson := by
  unfold Report.ofFields
  rw [Report.ofJson_getElem?, Check.keys_toJson, List.getElem?_map, Option.map_map]
  rfl

theorem Report.ofFields_unique_iff (fields : List StoredField) :
    (∀ c ∈ (Report.ofFields fields).fields, c.unique = true) ↔ (fields.map (·.key)).Nodup := by
  have hflag : ∀ (f : StoredField) (keys : List String) (i : Nat),
      (Check.fieldChecks keys i f.toJson).unique = (keys.count f.key == 1) := by
    intro f keys i
    simp only [Check.fieldChecks, f.itemKey?_toJson, Option.all_some]
  rw [List.nodup_iff_count_eq_one, List.forall_mem_map]
  apply Iff.intro
  · intro h f hf
    obtain ⟨i, hi⟩ := List.getElem?_of_mem hf
    have hentry := Report.ofFields_getElem? fields i
    rw [hi, Option.map_some] at hentry
    have hunique := h _ (List.mem_of_getElem? hentry)
    rwa [hflag, beq_iff_eq] at hunique
  · intro h c hc
    obtain ⟨i, hi⟩ := List.getElem?_of_mem hc
    rw [Report.ofFields_getElem?, Option.map_eq_some_iff] at hi
    obtain ⟨f, hf, rfl⟩ := hi
    rw [hflag, beq_iff_eq]
    exact h f (List.mem_of_getElem? hf)

theorem Report.ofFields_ok_iff {fields : List StoredField} (hs : ∀ f ∈ fields, f.Sound) :
    (Report.ofFields fields).ok = true ↔
      (fields.map (·.key)).Nodup ∧ ∀ f ∈ fields, f.Storable := by
  unfold Report.ofFields
  rw [Report.ofJson_ok_iff, Check.keys_toJson, List.forall_mem_map, and_comm]
  refine and_congr_right fun _ => ?_
  apply Iff.intro
  · intro h f hf
    exact (StoredField.ofJson_toJson_ok_iff (hs f hf)).mp (h f hf)
  · intro h f hf
    exact (StoredField.ofJson_toJson_ok_iff (hs f hf)).mpr (h f hf)

section
variable {fields : List StoredField} (hs : ∀ f ∈ fields, f.Sound)

include hs

theorem Report.ofFields_checks {c : FieldChecks} (hc : c ∈ (Report.ofFields fields).fields) :
    ∃ f ∈ fields, c.wrapper = true ∧ c.base = true ∧ (c.specs = true ↔ f.Storable) := by
  obtain ⟨i, hi⟩ := List.getElem?_of_mem hc
  rw [Report.ofFields_getElem?, Option.map_eq_some_iff] at hi
  obtain ⟨f, hf, rfl⟩ := hi
  exact ⟨f, List.mem_of_getElem? hf, Check.fieldChecks_toJson (hs f (List.mem_of_getElem? hf)) _ i⟩

theorem Report.ofFields_specs {i : Nat} {f : StoredField} (hf : fields[i]? = some f) :
    ∃ c : FieldChecks, (Report.ofFields fields).fields[i]? = some c ∧ (c.specs = true ↔ f.Storable) := by
  rw [Report.ofFields_getElem?, hf]
  exact ⟨_, rfl, (Check.fieldChecks_toJson (hs f (List.mem_of_getElem? hf)) _ i).2.2⟩

end

/-- Fields that were read fail on nothing but keys exactly if all their date bounds can be stored. In any
case their wrappers and base settings pass, and the specs of a field pass if its own bounds can be
stored. -/
theorem report_ofFields_iff {fields : List StoredField}
    (hread : ∀ f ∈ fields, ∃ v, StoredField.ofJson v = .ok f) :
    ((((Report.ofFields fields).ok = true ↔ (fields.map (·.key)).Nodup) ∧
      ∀ c ∈ (Report.ofFields fields).fields, c.wrapper = true ∧ c.base = true ∧ c.specs = true) ↔
        ∀ f ∈ fields, f.Storable) ∧
    (∀ c ∈ (Report.ofFields fields).fields, c.wrapper = true ∧ c.base = true) ∧
    (∀ (i : Nat) (f : StoredField), fields[i]? = some f →
      ∃ c : FieldChecks, (Report.ofFields fields).fields[i]? = some c ∧ (c.specs = true ↔ f.Storable)) ∧
    ((Report.ofFields fields).ok = true ↔
      (fields.map (·.key)).Nodup ∧ ∀ f ∈ fields, f.Storable) := by
  have hs : ∀ f ∈ fields, f.Sound := by
    intro f hf
    obtain ⟨v, hv⟩ := hread f hf
    exact StoredField.sound_of_ofJson hv
  refine ⟨?_, ?_, fun i f => Report.ofFields_specs hs, Report.ofFields_ok_iff hs⟩
  · rw [Report.ofFields_ok_iff hs]
    apply Iff.intro
    · intro h f hf
      obtain ⟨i, hi⟩ := List.getElem?_of_mem hf
      obtain ⟨c, hc, hspecs⟩ := Report.ofFields_specs hs hi
      exact hspecs.mp (h.2 c (List.mem_of_getElem? hc)).2.2
    · intro h
      refine ⟨and_iff_left h, ?_⟩
      intro c hc
      obtain ⟨f, hf, hwrapper, hbase, hspecs⟩ := Report.ofFields_checks hs hc
      exact ⟨hwrapper, hbase, hspecs.mpr (h f hf)⟩
  · intro c hc
    obtain ⟨_, _, hwrapper, hbase, _⟩ := Report.ofFields_checks hs hc
    exact ⟨hwrapper, hbase⟩

theorem report_of_due_2020 :
    (∀ f ∈ [StoredField.dueFrom (.ofDay 18262)], ∃ v, StoredField.ofJson v = .ok f) ∧
    ((Report.ofFields [.dueFrom (.ofDay 18262)]).ok = true ↔
      ([StoredField.dueFrom (.ofDay 18262)].map (·.key)).Nodup ∧
        ∀ f ∈ [StoredField.dueFrom (.ofDay 18262)], f.Storable) := by
  have hall : ∀ f ∈ [StoredField.dueFrom (.ofDay 18262)], ∃ v, StoredField.ofJson v = .ok f := by
    intro f hf
    rw [List.mem_singleton.mp hf]
    exact ⟨(StoredField.dueFrom (.ofDay 18262)).toJson, by decide +kernel⟩
  exact ⟨hall, (report_ofFields_iff hall).2.2.2⟩

def dueIn10000 : Json :=
  .object [
    ("id", .string "a"),
    ("order", .ofInt 0),
    ("item", .object [
      ("key", .string "due"),
      ("type", .string "date"),
      ("title", .string "Дата"),
      ("specs", .object [("min", .string "+10000-01-01")])])]

/-- A single field that is read fails the check of its specs. -/
theorem report_of_due_10000 :
    StoredField.ofJson dueIn10000 = .ok (.dueFrom (.ofDay 2932897)) ∧
    ([StoredField.dueFrom (.ofDay 2932897)].map (·.key)).Nodup ∧
    (Report.ofFields [.dueFrom (.ofDay 2932897)]).ok = false ∧
    (Report.ofFields [.dueFrom (.ofDay 2932897)]).fields =
      [⟨0, some "due", true, true, true, false⟩] := by
  decide +kernel

end TableSchema
