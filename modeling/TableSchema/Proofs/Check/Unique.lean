import Mathlib.Data.List.FinRange
import Mathlib.Data.List.Perm.Basic
import TableSchema.Proofs.Check.Agreement

/-!
# Keys that occur more than once

What is known of all fields bears on a single flag of an entry. `report_is_local`: the flag is down exactly
where another field has the key, so one more field changes it only for fields with its own key, and entries
move along with their fields.
-/

namespace TableSchema

namespace Check

/-! ## Counting keys -/

theorem keys_perm {values values' : List Json} (h : values.Perm values') :
    (keys values).Perm (keys values') :=
  h.filterMap itemKey?

theorem count_keys_cons (v : Json) (values : List Json) (k : String) :
    (keys (v :: values)).count k = (keys values).count k + if itemKey? v = some k then 1 else 0 := by
  unfold keys
  rw [List.filterMap_cons]
  cases itemKey? v with
  | none => simp
  | some l => simp [List.count_cons]

theorem count_keys_eq_one_iff {values : List Json} {i : Nat} {v : Json} (hv : values[i]? = some v)
    {k : String} (hk : itemKey? v = some k) : (keys values).count k = 1 ↔
      ∀ j w, j ≠ i → values[j]? = some w → itemKey? w ≠ some k := by
  obtain ⟨hi, rfl⟩ := List.getElem?_eq_some_iff.mp hv
  -- the field itself counts once; the rest of the list must not have its key
  have hperm := keys_perm (List.getElem_cons_eraseIdx_perm hi)
  rw [← hperm.count_eq, count_keys_cons, if_pos hk, Nat.add_eq_right, List.count_eq_zero]
  unfold keys
  simp only [List.mem_filterMap, List.mem_eraseIdx_iff_getElem?]
  apply Iff.intro
  · intro h j w hj hw hkey
    exact h ⟨w, ⟨j, hj, hw⟩, hkey⟩
  · rintro h ⟨w, ⟨j, hj, hw⟩, hkey⟩
    exact h j w hj hw hkey

theorem unique_eq_false_iff_count (keys : List String) (i : Nat) (v : Json) :
    (fieldChecks keys i v).unique = false ↔ ∃ k, itemKey? v = some k ∧ keys.count k ≠ 1 := by
  have hflag : (fieldChecks keys i v).unique = (itemKey? v).all fun k => keys.count k == 1 := rfl
  rw [hflag]
  cases itemKey? v with
  | none => simp
  | some k => simp

theorem unique_eq_false_iff {values : List Json} {i : Nat} {v : Json} (hv : values[i]? = some v) :
    (fieldChecks (keys values) i v).unique = false ↔
      ∃ k, itemKey? v = some k ∧ ∃ j w, j ≠ i ∧ values[j]? = some w ∧ itemKey? w = some k := by
  rw [unique_eq_false_iff_count]
  refine exists_congr fun k => and_congr_right fun hk => ?_
  rw [ne_eq, count_keys_eq_one_iff hv hk]
  push Not
  rfl

/-! ## Other fields -/

theorem fieldChecks_congr {keys keys' : List String} {v : Json}
    (h : ∀ k, itemKey? v = some k → (keys'.count k == 1) = (keys.count k == 1)) (i j : Nat) :
    fieldChecks keys' j v = { fieldChecks keys i v with index := j } := by
  have hflag : ((itemKey? v).all fun k => keys'.count k == 1) =
      (itemKey? v).all fun k => keys.count k == 1 := by
    cases hk : itemKey? v with
    | none => rfl
    | some k => exact h k hk
  unfold fieldChecks
  simp only [hflag]

theorem fieldChecks_perm {values values' : List Json} (h : values'.Perm values) (v : Json) (i j : Nat) :
    fieldChecks (keys values') j v = { fieldChecks (keys values) i v with index := j } :=
  fieldChecks_congr (fun k _ => by rw [(keys_perm h).count_eq]) i j

theorem unique_of_same_key {v w : Json} {values : List Json} (hv : v ∈ values) {k : String}
    (hw : itemKey? w = some k) (hk : itemKey? v = some k) (j : Nat) :
    (fieldChecks (keys (w :: values)) j v).unique = false := by
  have hmem : k ∈ keys values := List.mem_filterMap.mpr ⟨v, hv, hk⟩
  have hpos := List.count_pos_iff.mpr hmem
  refine (unique_eq_false_iff_count _ j v).mpr ⟨k, hk, ?_⟩
  rw [count_keys_cons, if_pos hw]
  omega

theorem fieldChecks_of_other_key {v w : Json} (h : ∀ k, itemKey? w = some k → itemKey? v ≠ some k)
    (values : List Json) (i j : Nat) :
    fieldChecks (keys (w :: values)) j v = { fieldChecks (keys values) i v with index := j } := by
  apply fieldChecks_congr
  intro k hk
  rw [count_keys_cons, if_neg fun hw => h k hw hk, Nat.add_zero]

end Check

/-! ## Reports -/

theorem Report.ofJson_getElem?_iff (values : List Json) (i : Nat) (c : FieldChecks) :
    (Report.ofJson values).fields[i]? = some c ↔
      ∃ v, values[i]? = some v ∧ c = Check.fieldChecks (Check.keys values) i v := by
  rw [Report.ofJson_getElem?, Option.map_eq_some_iff]
  simp only [eq_comm]

/-- A field shares its key exactly if another field has the same string as key. A further field leaves all
else about the other fields as it was, and makes the flag of those fall that have its key. The entries of
fields in another order are the same entries in that order. -/
theorem report_is_local (values : List Json) :
    (∀ (i : Nat) (v : Json), values[i]? = some v →
      ∃ c : FieldChecks, (Report.ofJson values).fields[i]? = some c ∧
      (c.unique = false ↔ ∃ k, Check.itemKey? v = some k ∧
        ∃ (j : Nat) (w : Json), j ≠ i ∧ values[j]? = some w ∧ Check.itemKey? w = some k)) ∧
    (∀ (w : Json) (i : Nat), i ≤ values.length →
      ∀ (j : Nat) (c : FieldChecks), (Report.ofJson values).fields[j]? = some c →
      ∃ c' : FieldChecks,
        (Report.ofJson (values.insertIdx i w)).fields[if j < i then j else j + 1]? = some c' ∧
        c'.key = c.key ∧ c'.wrapper = c.wrapper ∧ c'.base = c.base ∧ c'.specs = c.specs ∧
        (c'.unique ≠ c.unique → ∃ k, Check.itemKey? w = some k ∧ c.key = some k) ∧
        (∀ k, Check.itemKey? w = some k → c.key = some k → c'.unique = false)) ∧
    (∀ (σ : Equiv.Perm (Fin values.length)) (i : Fin values.length), ∃ c : FieldChecks,
      (Report.ofJson values).fields[(σ i).val]? = some c ∧
      (Report.ofJson (List.ofFn fun j => values[σ j])).fields[i.val]? = some { c with index := i }) := by
  refine ⟨?unique, ?insert, ?permute⟩
  case unique =>
    intro i v hv
    exact ⟨_, (Report.ofJson_getElem?_iff _ _ _).mpr ⟨v, hv, rfl⟩, Check.unique_eq_false_iff hv⟩
  case insert =>
    intro w i hi j c hc
    obtain ⟨v, hv, rfl⟩ := (Report.ofJson_getElem?_iff _ _ _).mp hc
    have hplace : (values.insertIdx i w)[if j < i then j else j + 1]? = some v := by
      split
      · next h => rw [List.getElem?_insertIdx_of_lt h, hv]
      · next h => rw [List.getElem?_insertIdx_of_gt (by omega), Nat.add_sub_cancel, hv]
    have hperm := Check.fieldChecks_perm (List.perm_insertIdx w values hi) v
    refine ⟨_, (Report.ofJson_getElem?_iff _ _ _).mpr ⟨v, hplace, rfl⟩, rfl, rfl, rfl, rfl, ?_, ?_⟩
    · intro hne
      by_contra hno
      push Not at hno
      apply hne
      rw [hperm j, Check.fieldChecks_of_other_key hno values j]
    · intro k hw hk
      rw [hperm j]
      exact Check.unique_of_same_key (List.mem_of_getElem? hv) hw hk j
  case permute =>
    intro σ i
    have hperm : (List.ofFn fun j => values[σ j]).Perm values := by
      have h := σ.ofFn_comp_perm values.get
      rwa [List.ofFn_get] at h
    refine ⟨_, (Report.ofJson_getElem?_iff _ _ _).mpr ⟨values[σ i], by simp, rfl⟩, ?_⟩
    refine (Report.ofJson_getElem?_iff _ _ _).mpr ⟨values[σ i], by simp, ?_⟩
    exact (Check.fieldChecks_perm hperm values[σ i] _ _).symm

end TableSchema
