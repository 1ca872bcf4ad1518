import Mathlib.Data.List.Nodup
import TableSchema.Text.NameOrder

/-!
# Sorted names hold every name once

`length_sortedNames_iff`: sorting loses a name exactly when a name occurs twice.
-/

namespace TableSchema

theorem name_lt_of_not (a b : String) (hlt : ¬ a < b) (hne : a ≠ b) : b < a := by
  rw [String.not_lt] at hlt
  apply Classical.byContradiction
  intro h
  rw [String.not_lt] at h
  exact hne (String.le_antisymm h hlt)

theorem mem_insertName (x name : String) (names : List String) :
    x ∈ insertName name names ↔ x = name ∨ x ∈ names := by
  induction names with
  | nil => simp [insertName]
  | cons n rest ih =>
    unfold insertName
    by_cases hlt : name < n
    · rw [if_pos hlt, List.mem_cons]
    · rw [if_neg hlt]
      by_cases heq : name = n
      · rw [if_pos heq, heq, List.mem_cons]
        simp
      · rw [if_neg heq, List.mem_cons, ih, List.mem_cons]
        exact or_left_comm

theorem mem_sortedNames (x : String) (names : List String) : x ∈ sortedNames names ↔ x ∈ names := by
  induction names with
  | nil => exact Iff.rfl
  | cons n rest ih =>
    have : sortedNames (n :: rest) = insertName n (sortedNames rest) := rfl
    rw [this, mem_insertName, ih, List.mem_cons]

theorem insertName_sorted (name : String) {names : List String} (hs : names.Pairwise (· < ·)) :
    (insertName name names).Pairwise (· < ·) := by
  induction names with
  | nil => simp [insertName]
  | cons n rest ih =>
    have hp := List.pairwise_cons.mp hs
    unfold insertName
    by_cases hlt : name < n
    · rw [if_pos hlt, List.pairwise_cons]
      refine ⟨?_, hs⟩
      intro x hx
      rcases List.mem_cons.mp hx with h | h
      · exact h ▸ hlt
      · exact String.lt_trans hlt (hp.1 x h)
    · rw [if_neg hlt]
      by_cases heq : name = n
      · rw [if_pos heq]
        exact hs
      · rw [if_neg heq, List.pairwise_cons]
        refine ⟨?_, ih hp.2⟩
        intro x hx
        rcases (mem_insertName x name rest).mp hx with h | h
        · exact h ▸ name_lt_of_not name n hlt heq
        · exact hp.1 x h

theorem sortedNames_sorted (names : List String) : (sortedNames names).Pairwise (· < ·) := by
  induction names with
  | nil => exact List.Pairwise.nil
  | cons n rest ih => exact insertName_sorted n ih

theorem nodup_of_sorted {names : List String} (h : names.Pairwise (· < ·)) : names.Nodup := by
  apply h.imp
  intro a b hlt heq
  exact String.lt_irrefl b (heq ▸ hlt)

theorem eq_of_sorted {as bs : List String} (ha : as.Pairwise (· < ·)) (hb : bs.Pairwise (· < ·))
    (h : ∀ x, x ∈ as ↔ x ∈ bs) : as = bs := by
  have hperm := (List.perm_ext_iff_of_nodup (nodup_of_sorted ha) (nodup_of_sorted hb)).mpr h
  refine hperm.eq_of_pairwise ?_ ha hb
  intro a b _ _ hab hba
  exact absurd (String.lt_trans hab hba) (String.lt_irrefl a)

theorem filter_sortedNames_congr {p : String → Bool} {as bs : List String}
    (h : ∀ x, p x = true → (x ∈ as ↔ x ∈ bs)) : (sortedNames as).filter p = (sortedNames bs).filter p := by
  refine eq_of_sorted ((sortedNames_sorted as).filter p) ((sortedNames_sorted bs).filter p) ?_
  intro x
  simp only [List.mem_filter, mem_sortedNames]
  exact and_congr_left (h x)

theorem sortedNames_congr {as bs : List String} (h : ∀ x, x ∈ as ↔ x ∈ bs) :
    sortedNames as = sortedNames bs := by
  have hall := filter_sortedNames_congr (p := fun _ => true) fun x _ => h x
  rwa [List.filter_true, List.filter_true] at hall

theorem length_insertName (name : String) {names : List String} (hs : names.Pairwise (· < ·)) :
    (insertName name names).length = if name ∈ names then names.length else names.length + 1 := by
  induction names with
  | nil => rfl
  | cons n rest ih =>
    have hp := List.pairwise_cons.mp hs
    unfold insertName
    by_cases hlt : name < n
    · -- a name below the first one is not in a sorted list
      have hno : name ∉ n :: rest := by
        intro hmem
        rcases List.mem_cons.mp hmem with h | h
        · exact String.lt_irrefl n (h ▸ hlt)
        · exact String.lt_irrefl name (String.lt_trans hlt (hp.1 name h))
      rw [if_pos hlt, if_neg hno]
      rfl
    · rw [if_neg hlt]
      by_cases heq : name = n
      · rw [if_pos heq, if_pos (by simp [heq])]
      · rw [if_neg heq, List.length_cons, ih hp.2]
        by_cases hmem : name ∈ rest
        · rw [if_pos hmem, if_pos (List.mem_cons_of_mem n hmem)]
          rfl
        · rw [if_neg hmem, if_neg (by simp [heq, hmem])]
          rfl

theorem length_sortedNames_cons (name : String) (names : List String) :
    (sortedNames (name :: names)).length =
      if name ∈ names then (sortedNames names).length else (sortedNames names).length + 1 := by
  have := length_insertName name (sortedNames_sorted names)
  simp only [mem_sortedNames] at this
  exact this

theorem length_sortedNames_le (names : List String) : (sortedNames names).length ≤ names.length := by
  induction names with
  | nil => exact Nat.le_refl 0
  | cons n rest ih =>
    rw [length_sortedNames_cons, List.length_cons]
    by_cases hmem : n ∈ rest
    · rw [if_pos hmem]
      omega
    · rw [if_neg hmem]
      omega

theorem length_sortedNames_iff (names : List String) :
    (sortedNames names).length = names.length ↔ names.Nodup := by
  induction names with
  | nil => simp [sortedNames]
  | cons n rest ih =>
    have hle := length_sortedNames_le rest
    rw [length_sortedNames_cons, List.length_cons, List.nodup_cons, ← ih]
    by_cases hmem : n ∈ rest
    · rw [if_pos hmem]
      apply Iff.intro
      · intro h; omega
      · intro h; exact absurd hmem h.1
    · rw [if_neg hmem]
      apply Iff.intro
      · intro h; exact ⟨hmem, by omega⟩
      · intro h; omega

end TableSchema
