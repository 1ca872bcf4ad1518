import TableSchema.Proofs.Rule.Compile
import TableSchema.Proofs.StoredField

/-!
# Checking agrees with compiling

`report_entry_iff_read`: the entry of one stored field passes all checks but that of its key exactly when the
field is read. `report_ok_iff_compiled`: stored fields pass all checks exactly when they compile to a table
with a row for every field.
-/

namespace TableSchema

/-! ## Reports -/

theorem Check.mem_all (c : Check) : c ∈ Check.all := by
  cases c <;> decide

theorem FieldChecks.ok_iff_passed (f : FieldChecks) : f.ok = true ↔ ∀ c, f.passed c = true := by
  have hall : (∀ c, f.passed c = true) ↔ ∀ c ∈ Check.all, f.passed c = true := by
    simp only [Check.mem_all, forall_const]
  rw [hall]
  simp [FieldChecks.ok, Check.all, FieldChecks.passed, and_assoc]

theorem FieldChecks.failed_eq_nil_iff (f : FieldChecks) : f.failed = [] ↔ f.ok = true := by
  unfold FieldChecks.failed
  rw [List.filter_eq_nil_iff, f.ok_iff_passed]
  simp [Check.mem_all]

theorem Report.ok_iff (r : Report) : r.ok = true ↔ ∀ f ∈ r.fields, f.ok = true := by
  unfold Report.ok Report.failures
  rw [List.isEmpty_iff, List.flatMap_eq_nil_iff]
  simp only [List.map_eq_nil_iff, FieldChecks.failed_eq_nil_iff]

def Check.keys (fields : List Json) : List String :=
  fields.filterMap Check.itemKey?

theorem Check.fieldChecks_ok_iff (keys : List String) (i : Nat) (v : Json) :
    (Check.fieldChecks keys i v).ok = true ↔
      (∃ f, StoredField.ofJson v = .ok f) ∧ ∀ k, Check.itemKey? v = some k → keys.count k = 1 := by
  rw [StoredField.ofJson_ok_iff]
  have hunique : ((Check.itemKey? v).all fun k => keys.count k == 1) = true ↔
      ∀ k, Check.itemKey? v = some k → keys.count k = 1 := by
    rw [Option.all_eq_true]
    simp only [beq_iff_eq]
  unfold Check.fieldChecks FieldChecks.ok
  simp only [Bool.and_eq_true, hunique]
  apply Iff.intro
  · intro h
    exact ⟨⟨h.1.1.2, h.1.2, h.2⟩, h.1.1.1⟩
  · intro h
    exact ⟨⟨⟨h.2, h.1.1⟩, h.1.2.1⟩, h.1.2.2⟩

theorem Report.ofJson_ok_iff_each (fields : List Json) : (Report.ofJson fields).ok = true ↔
    ∀ v ∈ fields, (∃ f, StoredField.ofJson v = .ok f) ∧
      ∀ k, Check.itemKey? v = some k → (Check.keys fields).count k = 1 := by
  rw [Report.ok_iff]
  apply Iff.intro
  · intro h v hv
    obtain ⟨i, hi⟩ := List.getElem?_of_mem hv
    have hmem : Check.fieldChecks (Check.keys fields) i v ∈ (Report.ofJson fields).fields :=
      List.mem_map.mpr ⟨(v, i), List.mem_zipIdx_iff_getElem?.mpr hi, rfl⟩
    exact (Check.fieldChecks_ok_iff _ i v).mp (h _ hmem)
  · intro h c hc
    obtain ⟨vi, hvi, rfl⟩ := List.mem_map.mp hc
    have hv := List.mem_of_getElem? (List.mem_zipIdx_iff_getElem?.mp hvi)
    exact (Check.fieldChecks_ok_iff _ vi.2 vi.1).mpr (h vi.1 hv)

theorem Report.ofJson_ok_iff (fields : List Json) : (Report.ofJson fields).ok = true ↔
    (∀ v ∈ fields, ∃ f, StoredField.ofJson v = .ok f) ∧ (Check.keys fields).Nodup := by
  rw [Report.ofJson_ok_iff_each, List.nodup_iff_count_eq_one]
  apply Iff.intro
  · intro h
    refine ⟨fun v hv => (h v hv).1, ?_⟩
    intro k hk
    obtain ⟨v, hv, hkey⟩ := List.mem_filterMap.mp hk
    exact (h v hv).2 k hkey
  · intro h v hv
    refine ⟨h.1 v hv, ?_⟩
    intro k hkey
    exact h.2 k (List.mem_filterMap.mpr ⟨v, hv, hkey⟩)

theorem Report.ofJson_getElem? (values : List Json) (i : Nat) : (Report.ofJson values).fields[i]? =
    values[i]?.map fun v => Check.fieldChecks (Check.keys values) i v := by
  unfold Report.ofJson
  simp only [List.getElem?_map, List.getElem?_zipIdx, Option.map_map]
  cases values[i]? with
  | none => rfl
  | some v => simp [Check.keys]

/-- The report has an entry for every field. It says whether the field can be read, and if so, under which
key. -/
theorem report_entry_iff_read (values : List Json) (i : Fin values.length) :
    ∃ c : FieldChecks, (Report.ofJson values).fields[i.val]? = some c ∧ c.index = i.val ∧
      ((∃ f, StoredField.ofJson values[i] = .ok f) ↔ c.wrapper = true ∧ c.base = true ∧ c.specs = true) ∧
      ∀ f, StoredField.ofJson values[i] = .ok f → c.key = some f.key := by
  refine ⟨Check.fieldChecks (Check.keys values) i values[i], ?_, rfl, ?_, ?_⟩
  · rw [Report.ofJson_getElem?, List.getElem?_eq_getElem i.isLt]
    rfl
  · exact StoredField.ofJson_ok_iff values[i]
  · intro f hf
    exact StoredField.itemKey?_of_ofJson hf

/-! ## Fields that are read -/

section
variable {values : List Json} {fields : List StoredField}
  (h : values.map StoredField.ofJson = fields.map Except.ok)

include h

theorem keys_of_read : Check.keys values = fields.map (·.key) := by
  unfold Check.keys
  induction values generalizing fields with
  | nil =>
    cases fields with
    | nil => rfl
    | cons f fields => cases h
  | cons v values ih =>
    cases fields with
    | nil => cases h
    | cons f fields =>
      rw [List.map_cons, List.map_cons, List.cons.injEq] at h
      rw [List.filterMap_cons_some (StoredField.itemKey?_of_ofJson h.1), ih h.2, List.map_cons]

theorem length_of_read : values.length = fields.length := by
  have := congrArg List.length h
  simpa using this

theorem read_of_mem {v : Json} (hv : v ∈ values) : ∃ f ∈ fields, StoredField.ofJson v = .ok f := by
  have hmem : StoredField.ofJson v ∈ fields.map Except.ok := by
    rw [← h]
    exact List.mem_map_of_mem hv
  obtain ⟨f, hf, hok⟩ := List.mem_map.mp hmem
  exact ⟨f, hf, hok.symm⟩

theorem read_getElem? {i : Nat} {f : StoredField} (hf : fields[i]? = some f) :
    ∃ v, values[i]? = some v ∧ StoredField.ofJson v = .ok f := by
  have hi := congrArg (·[i]?) h
  simp only [List.getElem?_map, hf, Option.map_some, Option.map_eq_some_iff] at hi
  exact hi

end

theorem compileJson_eq_ok_iff (o : CompileOptions) (values : List Json) (t : RuleTable) :
    compileJson o (.array values) = .ok t ↔
      ∃ fields, values.map StoredField.ofJson = fields.map .ok ∧ t = compile o fields := by
  unfold compileJson StoredField.listOfJson
  simp only [← mapM_eq_ok_iff]
  cases values.mapM StoredField.ofJson with
  | error e => simp
  | ok fields =>
    simp only [Except.ok.injEq]
    apply Iff.intro
    · intro h; exact ⟨fields, rfl, h.symm⟩
    · intro h
      obtain ⟨fields', rfl, ht⟩ := h
      exact ht.symm

/-! ## Agreement -/

def SharesKey (values : List Json) : Prop :=
  ∃ (i j : Nat) (v w : Json) (f g : StoredField), i < j ∧ values[i]? = some v ∧ values[j]? = some w ∧
    StoredField.ofJson v = .ok f ∧ StoredField.ofJson w = .ok g ∧ f.key = g.key

theorem sharesKey_of_not_nodup {values : List Json} {fields : List StoredField}
    (h : values.map StoredField.ofJson = fields.map .ok) (hn : ¬ (fields.map (·.key)).Nodup) :
    SharesKey values := by
  rw [List.Nodup, List.pairwise_iff_getElem] at hn
  simp only [Classical.not_forall, Classical.not_not] at hn
  obtain ⟨i, j, hi, hj, hij, heq⟩ := hn
  rw [List.length_map] at hi hj
  obtain ⟨v, hv, hf⟩ := read_getElem? h (List.getElem?_eq_getElem hi)
  obtain ⟨w, hw, hg⟩ := read_getElem? h (List.getElem?_eq_getElem hj)
  refine ⟨i, j, v, w, fields[i], fields[j], hij, hv, hw, hf, hg, ?_⟩
  simpa using heq

theorem report_ok_iff (values : List Json) : (Report.ofJson values).ok = true ↔
    ∃ fields : List StoredField, values.map StoredField.ofJson = fields.map .ok ∧
      (fields.map (·.key)).Nodup := by
  rw [Report.ofJson_ok_iff, ← exists_mapM_iff]
  simp only [mapM_eq_ok_iff]
  apply Iff.intro
  · intro h
    obtain ⟨⟨fields, hread⟩, hn⟩ := h
    rw [keys_of_read hread] at hn
    exact ⟨fields, hread, hn⟩
  · intro h
    obtain ⟨fields, hread, hn⟩ := h
    rw [keys_of_read hread]
    exact ⟨⟨fields, hread⟩, hn⟩

/-- Fields pass their checks exactly when they compile without losing one. Then every field has its rules
in the table. Fields that fail do not compile, or two of them are one row. -/
theorem report_ok_iff_compiled (o : CompileOptions) (values : List Json) :
    ((Report.ofJson values).ok = true ↔
      ∃ t, compileJson o (.array values) = .ok t ∧ t.length = values.length) ∧
    ((Report.ofJson values).ok = true → ∃ t, compileJson o (.array values) = .ok t ∧
      ∀ v ∈ values, ∃ f, StoredField.ofJson v = .ok f ∧ t.lookup f.key = some (f.item.specs.rules o)) ∧
    ((Report.ofJson values).ok = false → (∃ e, compileJson o (.array values) = .error e) ∨
      ∃ t, compileJson o (.array values) = .ok t ∧ t.length < values.length ∧ SharesKey values) := by
  refine ⟨?_, ?_, ?_⟩
  · rw [report_ok_iff]
    simp only [compileJson_eq_ok_iff]
    apply Iff.intro
    · intro h
      obtain ⟨fields, hread, hn⟩ := h
      refine ⟨_, ⟨fields, hread, rfl⟩, ?_⟩
      rw [length_of_read hread]
      exact (length_compile_iff o fields).mpr hn
    · intro h
      obtain ⟨t, ⟨fields, hread, rfl⟩, hlen⟩ := h
      rw [length_of_read hread] at hlen
      exact ⟨fields, hread, (length_compile_iff o fields).mp hlen⟩
  · intro h
    obtain ⟨fields, hread, hn⟩ := (report_ok_iff values).mp h
    refine ⟨compile o fields, (compileJson_eq_ok_iff o values _).mpr ⟨fields, hread, rfl⟩, ?_⟩
    intro v hv
    obtain ⟨f, hf, hok⟩ := read_of_mem hread hv
    refine ⟨f, hok, ?_⟩
    rw [lookup_compile, lastWithKey?_of_nodup hn hf, Option.map_some]
  · intro h
    cases hc : compileJson o (.array values) with
    | error e => exact Or.inl ⟨e, rfl⟩
    | ok t =>
      -- everything was read, so it must be the keys that fail
      obtain ⟨fields, hread, rfl⟩ := (compileJson_eq_ok_iff o values t).mp hc
      have hn : ¬ (fields.map (·.key)).Nodup := by
        intro hn
        rw [(report_ok_iff values).mpr ⟨fields, hread, hn⟩] at h
        cases h
      have hle := length_compile_le o fields
      have hne := mt (length_compile_iff o fields).mp hn
      refine Or.inr ⟨_, rfl, ?_, sharesKey_of_not_nodup hread hn⟩
      rw [length_of_read hread]
      omega

end TableSchema
