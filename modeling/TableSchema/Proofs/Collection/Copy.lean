import TableSchema.Proofs.Check.Typed
import TableSchema.Proofs.Collection.Identity

/-!
# The key of a copy

A copy takes the key of its field with `-copy` behind it, whether or not another field has that key already.
`copy_keys`: exactly where none has it do keys stay distinct, so that all pass their checks and each has a
row in the table.
-/

namespace TableSchema

namespace Collection

def keys (c : Collection) : List String :=
  c.fields.map (·.key)

theorem keys_eq_map_entries (c : Collection) : c.keys = c.entries.map (·.item.key) := by
  unfold keys entries
  rw [List.map_map]
  rfl

theorem any_entries_iff (c : Collection) (id : String) :
    c.entries.any (·.id == id) = true ↔ id ∈ c.ids := by
  unfold entries ids
  simp only [List.any_eq_true, List.mem_map, beq_iff_eq, exists_exists_and_eq_and]
  rfl

theorem copy?_perm (c : Collection) (newId : String) {id : String} (hid : id ∈ c.ids) :
    ∃ f c', c.get? id = some f ∧ c.copy? newId id = some c' ∧
      c'.entries.Perm (f.entry.copy newId :: c.entries) := by
  obtain ⟨i, f, hi, _, hget⟩ := exists_first ((c.any_entries_iff id).mpr hid)
  refine ⟨f, _, hget, by unfold copy?; rw [hi, hget], ?_⟩
  refine (entries_move_perm _ _ _).trans ?_
  rw [entries_add]
  exact List.perm_append_singleton _ _

theorem copy?_keys (c : Collection) (newId : String) {id : String} (hid : id ∈ c.ids) :
    ∃ f c', c.get? id = some f ∧ c.copy? newId id = some c' ∧
      c'.keys.Perm ((f.key ++ "-copy") :: c.keys) := by
  obtain ⟨f, c', hget, hcopy, hperm⟩ := c.copy?_perm newId hid
  refine ⟨f, c', hget, hcopy, ?_⟩
  rw [keys_eq_map_entries, keys_eq_map_entries]
  exact hperm.map _

theorem length_compile_of_keys {c c' : Collection} {key : String} (hkeys : c.keys.Nodup)
    (h : c'.keys.Perm (key :: c.keys)) (o : CompileOptions) :
    (compile o c'.fields).length = if key ∈ c.keys then c.size else c.size + 1 := by
  have hsame : sortedNames c'.keys = sortedNames (key :: c.keys) := sortedNames_congr fun _ => h.mem_iff
  have hold : (sortedNames c.keys).length = c.size := by
    rw [(length_sortedNames_iff c.keys).mpr hkeys]
    exact List.length_map _
  rw [length_compile, show c'.fields.map (·.key) = c'.keys from rfl, hsame, length_sortedNames_cons, hold]

/-- Where keys are distinct, a field with any id that is there can be copied. Keys are distinct after that
exactly if no field has the key of the copied one with `-copy` behind it. Then the checks of keys pass, and
every field has its rules in the table. If a field has that key, a check of keys fails, and the table has a
row less than there are fields. -/
theorem copy_keys (c : Collection) (hkeys : c.keys.Nodup) (newId : String) {id : String} (hid : id ∈ c.ids) :
    ∃ f c', c.get? id = some f ∧ c.copy? newId id = some c' ∧ c'.size = c.size + 1 ∧
      (c'.keys.Nodup ↔ f.key ++ "-copy" ∉ c.keys) ∧
      (f.key ++ "-copy" ∉ c.keys →
        (∀ checks ∈ (Report.ofFields c'.fields).fields, checks.unique = true) ∧
        ∀ o, (compile o c'.fields).length = c'.size ∧
          ∀ g ∈ c'.fields, (compile o c'.fields).lookup g.key = some (g.item.specs.rules o)) ∧
      (f.key ++ "-copy" ∈ c.keys →
        (∃ checks ∈ (Report.ofFields c'.fields).fields, checks.unique = false) ∧
        ∀ o, (compile o c'.fields).length = c.size) := by
  obtain ⟨f, c', hget, hcopy, hperm⟩ := c.copy?_keys newId hid
  have hsize : c'.size = c.size + 1 := by simpa [keys, size] using hperm.length_eq
  have hnodup : c'.keys.Nodup ↔ f.key ++ "-copy" ∉ c.keys := by
    rw [hperm.nodup_iff, List.nodup_cons, and_iff_left hkeys]
  refine ⟨f, c', hget, hcopy, hsize, hnodup, ?new, ?taken⟩
  case new =>
    intro hnew
    have hn : (c'.fields.map (·.key)).Nodup := hnodup.mpr hnew
    refine ⟨(Report.ofFields_unique_iff c'.fields).mpr hn, ?_⟩
    intro o
    refine ⟨?_, ?_⟩
    · rw [length_compile_of_keys hkeys hperm, if_neg hnew, hsize]
    · intro g hg
      rw [lookup_compile, lastWithKey?_of_nodup hn hg, Option.map_some]
  case taken =>
    intro htaken
    have hn : ¬ (c'.fields.map (·.key)).Nodup := fun hn => hnodup.mp hn htaken
    refine ⟨?_, ?_⟩
    · rw [← Report.ofFields_unique_iff] at hn
      push Not at hn
      simpa using hn
    · intro o
      rw [length_compile_of_keys hkeys hperm, if_pos htaken]

theorem copy_keys_recordId :
    let c := ofFields {} StoredField.autoFields
    c.keys.Nodup ∧ "autofield-id" ∈ c.ids ∧
      ∃ c', c.copy? "second" "autofield-id" = some c' ∧ c'.keys.Nodup ∧ ∀ o, (compile o c'.fields).length = 4 := by
  intro c
  have hkeys : c.keys.Nodup := by decide
  have hid : "autofield-id" ∈ c.ids := by decide
  refine ⟨hkeys, hid, ?_⟩
  obtain ⟨f, c', hget, hcopy, hsize, hnodup, hnew, _⟩ := copy_keys c hkeys "second" hid
  have hf : f = { StoredField.recordId with order := 0 } :=
    Option.some.inj (hget.symm.trans (by decide +kernel))
  have hfree : f.key ++ "-copy" ∉ c.keys := by
    rw [hf]
    decide
  refine ⟨c', hcopy, hnodup.mpr hfree, ?_⟩
  intro o
  rw [((hnew hfree).2 o).1, hsize]
  rfl

/-- A second copy of one field takes the key of the first. -/
theorem copy_twice_shares_key :
    let c := (run edit (ofFields {} StoredField.autoFields) [.copy "second" "autofield-id"]).1
    c.keys.Nodup ∧ "autofield-id" ∈ c.ids ∧
      ∃ c', c.copy? "third" "autofield-id" = some c' ∧ ¬ c'.keys.Nodup ∧
        (Report.ofFields c'.fields).ok = false ∧ (compile {} c'.fields).length < c'.size := by
  intro c
  refine ⟨by decide +kernel, by decide +kernel, _, rfl, ?_, ?_, ?_⟩ <;> decide +kernel

end Collection

end TableSchema
