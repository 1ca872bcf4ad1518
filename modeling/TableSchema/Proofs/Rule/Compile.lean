import TableSchema.Proofs.Repetitions
import TableSchema.Proofs.Text.Names
import TableSchema.Rule.Compile

/-!
# Rule sets and the rows of a rule table

A rule set has the rules that it was made with: leaving out rules of which none is set makes no difference. A
compiled table has one row for every key of its fields, and the last field with a key decides the row.
-/

namespace TableSchema

/-! ## Rule sets -/

namespace RuleSet

theorem bind_ofRules {α : Type} (type : ValueType) {r : Rules} {f : Rules → Option α}
    (h : r.isEmpty = true → f r = none) : (ofRules type r).rules.bind f = f r := by
  unfold ofRules
  by_cases hr : r.isEmpty = true
  · rw [if_pos hr, h hr]
    rfl
  · rw [if_neg hr]
    rfl

theorem custom_ofRules (type : ValueType) (r : Rules) : (ofRules type r).custom = r.custom :=
  bind_ofRules type fun h => by simp_all [Rules.isEmpty]

end RuleSet

/-! ## Rows -/

section
variable {α : Type} (find : String → Option α) (f : α → RuleSet) (keys : List String)

theorem map_fst_rows (h : ∀ k ∈ keys, (find k).isSome = true) :
    ((keys.filterMap fun k => (find k).map fun a => (k, f a)).map (·.1)) = keys := by
  induction keys with
  | nil => rfl
  | cons k keys ih =>
    obtain ⟨a, ha⟩ := Option.isSome_iff_exists.mp (h k List.mem_cons_self)
    have hrest := ih fun k hk => h k (List.mem_cons_of_mem _ hk)
    rw [List.filterMap_cons_some (by rw [ha]; rfl), List.map_cons, hrest]

theorem lookup_rows (key : String) (hkey : find key ≠ none → key ∈ keys) :
    (keys.filterMap fun k => (find k).map fun a => (k, f a)).lookup key = (find key).map f := by
  induction keys with
  | nil =>
    have hnone : find key = none := not_not.mp fun h => List.not_mem_nil (hkey h)
    rw [hnone]
    rfl
  | cons k keys ih =>
    by_cases hk : key = k
    · -- a key without a field makes no row, here or further down
      subst hk
      cases h : find key with
      | none =>
        rw [List.filterMap_cons_none (by rw [h]; rfl)]
        rw [h] at ih
        exact ih fun h => absurd rfl h
      | some a =>
        rw [List.filterMap_cons_some (by rw [h]; rfl), List.lookup_cons_self]
        rfl
    · have hrest := ih fun h => (List.mem_cons.mp (hkey h)).resolve_left hk
      cases h : find k with
      | none => rw [List.filterMap_cons_none (by rw [h]; rfl), hrest]
      | some a =>
        rw [List.filterMap_cons_some (by rw [h]; rfl), List.lookup_cons, hrest, beq_false_of_ne hk]

end

theorem lastWithKey?_isSome_iff (fields : List StoredField) (key : String) :
    (lastWithKey? fields key).isSome = true ↔ key ∈ fields.map (·.key) := by
  unfold lastWithKey?
  simp [List.find?_isSome]

theorem map_fst_compile (o : CompileOptions) (fields : List StoredField) :
    (compile o fields).map (·.1) = sortedNames (fields.map (·.key)) := by
  apply map_fst_rows
  intro k hk
  rw [lastWithKey?_isSome_iff]
  exact (mem_sortedNames k _).mp hk

theorem lookup_compile (o : CompileOptions) (fields : List StoredField) (key : String) :
    (compile o fields).lookup key = (lastWithKey? fields key).map fun f => f.item.specs.rules o := by
  apply lookup_rows
  intro h
  rw [mem_sortedNames, ← lastWithKey?_isSome_iff]
  exact Option.isSome_iff_ne_none.mpr h

theorem length_compile (o : CompileOptions) (fields : List StoredField) :
    (compile o fields).length = (sortedNames (fields.map (·.key))).length := by
  rw [← map_fst_compile o, List.length_map]

theorem length_compile_le (o : CompileOptions) (fields : List StoredField) :
    (compile o fields).length ≤ fields.length := by
  have := length_sortedNames_le (fields.map (·.key))
  rw [List.length_map] at this
  rw [length_compile]
  exact this

theorem length_compile_iff (o : CompileOptions) (fields : List StoredField) :
    (compile o fields).length = fields.length ↔ (fields.map (·.key)).Nodup := by
  have := length_sortedNames_iff (fields.map (·.key))
  rw [List.length_map] at this
  rw [length_compile]
  exact this

theorem lastWithKey?_eq_some_iff {fields : List StoredField} (hn : (fields.map (·.key)).Nodup) {key : String}
    {f : StoredField} : lastWithKey? fields key = some f ↔ f ∈ fields ∧ f.key = key := by
  have hrev : (fields.reverse.map (·.key)).Nodup := by
    rw [List.map_reverse, List.nodup_reverse]
    exact hn
  unfold lastWithKey?
  rw [find?_key_iff hrev, List.mem_reverse]

theorem lastWithKey?_of_nodup {fields : List StoredField} (hn : (fields.map (·.key)).Nodup)
    {f : StoredField} (hf : f ∈ fields) : lastWithKey? fields f.key = some f :=
  (lastWithKey?_eq_some_iff hn).mpr ⟨hf, rfl⟩

end TableSchema
