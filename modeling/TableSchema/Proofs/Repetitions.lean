import Mathlib.Data.List.Induction
import Mathlib.Data.List.Nodup

/-!
# Lists without their repetitions

`eraseDups` keeps an element where it comes first. What a last element adds to it is an element or nothing,
and all else follows from that by going through a list from its end.
-/

namespace TableSchema

section
variable {α : Type} [DecidableEq α]

theorem eraseDups_append_singleton (xs : List α) (x : α) :
    (xs ++ [x]).eraseDups = if x ∈ xs then xs.eraseDups else xs.eraseDups ++ [x] := by
  rw [List.eraseDups_append]
  by_cases hx : x ∈ xs <;> simp [List.removeAll, hx, List.eraseDups_cons]

/-- Elements stay in the order in which they come first. -/
theorem pairwise_idxOf_eraseDups (xs : List α) : xs.eraseDups.Pairwise fun a b => xs.idxOf a < xs.idxOf b := by
  induction xs using List.reverseRecOn with
  | nil => simp
  | append_singleton xs x ih =>
    have hold : ∀ a ∈ xs.eraseDups, (xs ++ [x]).idxOf a = xs.idxOf a := by
      intro a ha
      rw [List.mem_eraseDups] at ha
      exact List.idxOf_append_of_mem ha
    have hbefore : xs.eraseDups.Pairwise fun a b => (xs ++ [x]).idxOf a < (xs ++ [x]).idxOf b := by
      apply ih.imp_of_mem
      intro a b ha hb hlt
      rw [hold a ha, hold b hb]
      exact hlt
    rw [eraseDups_append_singleton]
    split
    · exact hbefore
    · next hx =>
      refine List.pairwise_append.mpr ⟨hbefore, List.pairwise_singleton _ x, ?_⟩
      intro a ha b hb
      rw [List.mem_singleton.mp hb, hold a ha, List.idxOf_append_of_notMem hx]
      have := List.idxOf_lt_length_of_mem (List.mem_eraseDups.mp ha)
      omega

theorem nodup_of_pairwise_idxOf {xs ys : List α} (h : ys.Pairwise fun a b => xs.idxOf a < xs.idxOf b) :
    ys.Nodup := by
  apply h.imp
  rintro a b hlt rfl
  exact Nat.lt_irrefl _ hlt

theorem nodup_eraseDups (xs : List α) : xs.eraseDups.Nodup :=
  nodup_of_pairwise_idxOf (pairwise_idxOf_eraseDups xs)

theorem eraseDups_of_nodup {xs : List α} (hn : xs.Nodup) : xs.eraseDups = xs := by
  induction xs using List.reverseRecOn with
  | nil => simp
  | append_singleton xs x ih =>
    obtain ⟨hxs, _, hdisjoint⟩ := List.nodup_append.mp hn
    have hx : x ∉ xs := fun hx => hdisjoint x hx x (List.mem_singleton_self x) rfl
    rw [eraseDups_append_singleton, if_neg hx, ih hxs]

theorem filter_eraseDups (p : α → Bool) (xs : List α) : xs.eraseDups.filter p = (xs.filter p).eraseDups := by
  induction xs using List.reverseRecOn with
  | nil => simp
  | append_singleton xs x ih =>
    rw [eraseDups_append_singleton, List.filter_append]
    by_cases hp : p x = true
    · rw [List.filter_singleton, hp, cond_true, eraseDups_append_singleton]
      by_cases hx : x ∈ xs <;> simp [hx, hp, ih]
    · by_cases hx : x ∈ xs <;> simp [hx, hp, ih]

theorem eraseDups_append_replicate (xs : List α) (n : Nat) (x : α) :
    (xs ++ List.replicate (n + 1) x).eraseDups = (xs ++ [x]).eraseDups := by
  induction n with
  | zero => rfl
  | succ n ih =>
    have hx : x ∈ xs ++ List.replicate (n + 1) x := by simp
    rw [List.replicate_succ', ← List.append_assoc, eraseDups_append_singleton, if_pos hx, ih]

end

/-! ## Distinct keys -/

theorem find?_key_iff {α : Type} {key : α → String} {xs : List α} (hn : (xs.map key).Nodup) {k : String}
    {x : α} : xs.find? (key · == k) = some x ↔ x ∈ xs ∧ key x = k := by
  apply Iff.intro
  · intro h
    exact ⟨List.mem_of_find?_eq_some h, by simpa using List.find?_some h⟩
  · intro h
    obtain ⟨hx, rfl⟩ := h
    cases hfind : xs.find? (key · == key x) with
    | none => exact absurd (List.find?_eq_none.mp hfind x hx) (by simp)
    | some y =>
      have hkey : key y = key x := by simpa using List.find?_some hfind
      rw [List.inj_on_of_nodup_map hn (List.mem_of_find?_eq_some hfind) hx hkey]

section
variable {α β : Type} [DecidableEq α]

theorem filter_key_ne {key : β → α} {before after : List β} {x : β}
    (hn : ((before ++ x :: after).map key).Nodup) :
    (before ++ x :: after).filter (key · != key x) = before ++ after := by
  have hfront : ((x :: (before ++ after)).map key).Nodup := (List.perm_middle.map key).nodup_iff.mp hn
  have hx := (List.nodup_cons.mp hfront).1
  have hrest : (before ++ after).filter (key · != key x) = before ++ after := by
    rw [List.filter_eq_self]
    intro y hy
    rw [bne_iff_ne]
    intro hkey
    exact hx (List.mem_map.mpr ⟨y, hy, hkey⟩)
  rw [List.filter_append, List.filter_cons_of_neg (by simp), ← List.filter_append, hrest]

theorem lookup_cons_eq_ite (a : α) (p : α × β) (ps : List (α × β)) :
    (p :: ps).lookup a = if a = p.1 then some p.2 else ps.lookup a := by
  rw [List.lookup_cons]
  by_cases ha : a = p.1
  · rw [if_pos ha, ha, beq_self_eq_true]
  · rw [if_neg ha, beq_false_of_ne ha]

theorem mem_iff_lookup {ps : List (α × β)} (hn : (ps.map (·.1)).Nodup) {p : α × β} :
    p ∈ ps ↔ ps.lookup p.1 = some p.2 := by
  induction ps with
  | nil => simp
  | cons q ps ih =>
    obtain ⟨hq, hps⟩ := List.nodup_cons.mp hn
    obtain ⟨a, b⟩ := p
    rw [List.mem_cons, lookup_cons_eq_ite]
    by_cases ha : a = q.1
    · subst ha
      have hno : (q.1, b) ∉ ps := fun hmem => hq (List.mem_map_of_mem (f := (·.1)) hmem)
      simp [hno, Prod.ext_iff, eq_comm]
    · simp [ha, ih hps, Prod.ext_iff]

theorem eq_map_lookup (d : β) {ps : List (α × β)} (hn : (ps.map (·.1)).Nodup) :
    ps = (ps.map (·.1)).map fun a => (a, (ps.lookup a).getD d) := by
  induction ps with
  | nil => rfl
  | cons p ps ih =>
    obtain ⟨hp, hps⟩ := List.nodup_cons.mp hn
    have hrest : ∀ a ∈ ps.map (·.1), (a, ((p :: ps).lookup a).getD d) = (a, (ps.lookup a).getD d) := by
      intro a ha
      have hne : a ≠ p.1 := by
        rintro rfl
        exact hp ha
      rw [lookup_cons_eq_ite, if_neg hne]
    rw [List.map_cons, List.map_cons, List.map_congr_left hrest, ← ih hps, lookup_cons_eq_ite, if_pos rfl]
    rfl

end

end TableSchema
