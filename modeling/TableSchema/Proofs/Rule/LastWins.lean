import TableSchema.Proofs.Collection.Identity
import TableSchema.Proofs.Rule.Compile
import TableSchema.Proofs.Text.Named

/-!
# The last field with a key decides its rules

A table comes of putting in the rules of one field after the other, so that a later field replaces an earlier
one with its key. `compile_last_wins`: what a table says of a key depends on the specs of the last field with
this key and on nothing else.
-/

namespace TableSchema

def StoredField.keyedSpecs (f : StoredField) : String × Specs :=
  (f.key, f.item.specs)

/-! ## The last field with a key -/

theorem lastWithKey?_append (xs ys : List StoredField) (key : String) :
    lastWithKey? (xs ++ ys) key = (lastWithKey? ys key).or (lastWithKey? xs key) := by
  simp [lastWithKey?]

theorem lastWithKey?_singleton (f : StoredField) (key : String) :
    lastWithKey? [f] key = if key = f.key then some f else none := by
  by_cases hkey : key = f.key
  · simp [lastWithKey?, hkey]
  · simp [lastWithKey?, hkey, Ne.symm hkey]

theorem lastWithKey?_eq_none {fields : List StoredField} {key : String} (h : ∀ f ∈ fields, f.key ≠ key) :
    lastWithKey? fields key = none := by
  rw [← Option.not_isSome_iff_eq_none, lastWithKey?_isSome_iff]
  simpa using h

section
variable (o : CompileOptions)

theorem sortedByName_compile (fields : List StoredField) : SortedByName (compile o fields) := by
  unfold SortedByName
  rw [map_fst_compile]
  exact sortedNames_sorted _

theorem lookup_compile_last (before : List StoredField) (f : StoredField) {after : List StoredField}
    (hafter : ∀ g ∈ after, g.key ≠ f.key) :
    (compile o (before ++ f :: after)).lookup f.key = some (f.item.specs.rules o) := by
  have hlast : lastWithKey? (before ++ f :: after) f.key = some f := by
    rw [List.append_cons, lastWithKey?_append, lastWithKey?_eq_none hafter, Option.none_or, lastWithKey?_append,
      lastWithKey?_singleton, if_pos rfl, Option.some_or]
  rw [lookup_compile, hlast, Option.map_some]

/-! ## Field by field -/

theorem compile_append (xs ys : List StoredField) :
    compile o (xs ++ ys) = overridden (compile o xs) (compile o ys) := by
  refine (sortedByName_compile o _).ext ((sortedByName_compile o xs).overridden _) ?_
  intro key
  rw [lookup_overridden, lookup_compile, lookup_compile, lookup_compile, lastWithKey?_append]
  cases lastWithKey? ys key <;> rfl

theorem compile_append_singleton (fields : List StoredField) (f : StoredField) :
    compile o (fields ++ [f]) = putNamed f.key (f.item.specs.rules o) (compile o fields) := by
  have hrow : compile o [f] = [(f.key, f.item.specs.rules o)] := by
    simp [compile, sortedNames, insertName, lastWithKey?_singleton]
  rw [compile_append, hrow]
  rfl

theorem compile_eq_foldl (fields : List StoredField) : compile o fields =
    (fields.map (·.keyedSpecs)).foldl (fun t f => putNamed f.1 (f.2.rules o) t) [] := by
  induction fields using List.reverseRecOn with
  | nil => rfl
  | append_singleton fields f ih =>
    rw [compile_append_singleton, ih, List.map_append, List.foldl_append]
    rfl

/-! ## What does not matter -/

theorem compile_congr {xs ys : List StoredField} (h : xs.map (·.keyedSpecs) = ys.map (·.keyedSpecs)) :
    compile o xs = compile o ys := by
  rw [compile_eq_foldl, h, ← compile_eq_foldl]

theorem lookup_compile_iff {fields : List StoredField} (hn : (fields.map (·.key)).Nodup) (key : String)
    (r : RuleSet) : (compile o fields).lookup key = some r ↔
      ∃ p ∈ fields.map (·.keyedSpecs), p.1 = key ∧ p.2.rules o = r := by
  rw [lookup_compile, Option.map_eq_some_iff]
  simp only [lastWithKey?_eq_some_iff hn]
  simp [StoredField.keyedSpecs, and_assoc]

theorem compile_perm {xs ys : List StoredField} (hn : (xs.map (·.key)).Nodup)
    (h : (xs.map (·.keyedSpecs)).Perm (ys.map (·.keyedSpecs))) : compile o xs = compile o ys := by
  have hkeys : ∀ fields : List StoredField, fields.map (·.key) = (fields.map (·.keyedSpecs)).map (·.1) := by
    intro fields
    rw [List.map_map]
    rfl
  have hn' : (ys.map (·.key)).Nodup := by
    rw [hkeys] at hn ⊢
    exact (h.map _).nodup_iff.mp hn
  refine (sortedByName_compile o xs).ext (sortedByName_compile o ys) ?_
  intro key
  apply Option.ext
  intro r
  rw [lookup_compile_iff o hn, lookup_compile_iff o hn']
  simp only [h.mem_iff]

theorem compile_move {c : Collection} (hn : (c.fields.map (·.key)).Nodup) (source target : Int) :
    compile o (c.move source target).fields = compile o c.fields := by
  have hentries : ∀ c : Collection,
      c.fields.map (·.keyedSpecs) = c.entries.map fun e => (e.item.key, e.item.specs) := by
    intro c
    unfold Collection.entries
    rw [List.map_map]
    rfl
  refine (compile_perm o hn ?_).symm
  rw [hentries, hentries]
  exact ((Collection.entries_move_perm c source target).map _).symm

end

/-- A table is what comes of putting in the rules of the fields one after the other. It has the keys of the
fields, sorted and each once, and for a key the rules of the last field that has it. More fields override what
was there before. The order of fields with distinct keys makes no difference, nor does any part of a field
apart from its key and its specs. -/
theorem compile_last_wins (o : CompileOptions) :
    (∀ fields : List StoredField,
      compile o fields = fields.foldl (fun t f => putNamed f.key (f.item.specs.rules o) t) [] ∧
      SortedByName (compile o fields) ∧
      (∀ key, key ∈ (compile o fields).map (·.1) ↔ ∃ f ∈ fields, f.key = key) ∧
      ∀ before f after, fields = before ++ f :: after → (∀ g ∈ after, g.key ≠ f.key) →
        (compile o fields).lookup f.key = some (f.item.specs.rules o)) ∧
    (∀ xs ys : List StoredField,
      compile o (xs ++ ys) = overridden (compile o xs) (compile o ys) ∧
      ∀ key, (compile o (xs ++ ys)).lookup key =
        ((compile o ys).lookup key).or ((compile o xs).lookup key)) ∧
    (∀ xs ys : List StoredField, xs.Perm ys → (xs.map (·.key)).Nodup → compile o xs = compile o ys) ∧
    (∀ (c : Collection) (source target : Int), (c.fields.map (·.key)).Nodup →
      compile o (c.move source target).fields = compile o c.fields) ∧
    ∀ xs ys : List StoredField, xs.map (fun f => (f.key, f.item.specs)) = ys.map (fun f => (f.key, f.item.specs)) →
      compile o xs = compile o ys := by
  refine ⟨?table, ?appended, ?permuted, fun c source target hn => compile_move o hn source target,
    fun xs ys => compile_congr o⟩
  case table =>
    intro fields
    refine ⟨?_, sortedByName_compile o fields, ?_, ?_⟩
    · rw [compile_eq_foldl, List.foldl_map]
      rfl
    · intro key
      simp [map_fst_compile, mem_sortedNames]
    · rintro before f after rfl hafter
      exact lookup_compile_last o before f hafter
  case appended =>
    intro xs ys
    refine ⟨compile_append o xs ys, ?_⟩
    intro key
    rw [compile_append, lookup_overridden]
  case permuted =>
    intro xs ys hperm hn
    exact compile_perm o hn (hperm.map _)

end TableSchema
