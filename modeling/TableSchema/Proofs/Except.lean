/-!
# Results of readers

Readers give a value or an error. A sequence of readers gives a value exactly when each of them does.
-/

namespace TableSchema

theorem bind_eq_ok_iff {ε α β : Type} {x : Except ε α} {f : α → Except ε β} {b : β} :
    (x >>= f) = .ok b ↔ ∃ a, x = .ok a ∧ f a = .ok b := by
  cases x with
  | error e =>
    apply Iff.intro
    · intro h; cases h
    · intro h
      obtain ⟨a, ha, _⟩ := h
      cases ha
  | ok a =>
    apply Iff.intro
    · intro h; exact ⟨a, rfl, h⟩
    · intro h
      obtain ⟨a', ha, h⟩ := h
      cases ha
      exact h

theorem bind_eq_error_iff {ε α β : Type} {x : Except ε α} {f : α → Except ε β} {e : ε} :
    (x >>= f) = .error e ↔ x = .error e ∨ ∃ a, x = .ok a ∧ f a = .error e := by
  cases x with
  | error e' => simp [bind, Except.bind]
  | ok a => simp [bind, Except.bind]

theorem mapM_eq_ok_iff {ε α β : Type} (f : α → Except ε β) (as : List α) (bs : List β) :
    as.mapM f = .ok bs ↔ as.map f = bs.map .ok := by
  induction as generalizing bs with
  | nil =>
    cases bs with
    | nil => simp [pure, Except.pure]
    | cons b bs => simp [pure, Except.pure]
  | cons a as ih =>
    rw [List.mapM_cons, bind_eq_ok_iff]
    apply Iff.intro
    · intro h
      obtain ⟨b, hb, h⟩ := h
      obtain ⟨bs', hbs, h⟩ := bind_eq_ok_iff.mp h
      cases h
      rw [List.map_cons, List.map_cons, hb, (ih bs').mp hbs]
    · intro h
      cases bs with
      | nil => cases h
      | cons b bs =>
        rw [List.map_cons, List.map_cons, List.cons.injEq] at h
        exact ⟨b, h.1, bind_eq_ok_iff.mpr ⟨bs, (ih bs).mpr h.2, rfl⟩⟩

/-- The error of a sequence is the one of its first failure; what comes after it is not looked at. -/
theorem mapM_eq_error_iff {ε α β : Type} (f : α → Except ε β) (as : List α) (e : ε) :
    as.mapM f = .error e ↔ ∃ before a after, as = before ++ a :: after ∧
      (∀ b ∈ before, ∃ c, f b = .ok c) ∧ f a = .error e := by
  induction as with
  | nil => simp [pure, Except.pure]
  | cons a as ih =>
    rw [List.mapM_cons, bind_eq_error_iff]
    simp only [bind_eq_error_iff, pure, Except.pure, reduceCtorEq, and_false, exists_false, or_false, ih]
    apply Iff.intro
    · rintro (ha | ⟨c, hc, before, a', after, rfl, hbefore, ha'⟩)
      · exact ⟨[], a, as, rfl, by simp, ha⟩
      · refine ⟨a :: before, a', after, rfl, ?_, ha'⟩
        exact List.forall_mem_cons.mpr ⟨⟨c, hc⟩, hbefore⟩
    · rintro ⟨before, a', after, has, hbefore, ha'⟩
      cases before with
      | nil =>
        obtain ⟨rfl, rfl⟩ := List.cons.inj has
        exact Or.inl ha'
      | cons b before =>
        obtain ⟨rfl, rfl⟩ := List.cons.inj has
        obtain ⟨hb, hbefore⟩ := List.forall_mem_cons.mp hbefore
        obtain ⟨c, hc⟩ := hb
        exact Or.inr ⟨c, hc, before, a', after, rfl, hbefore, ha'⟩

theorem exists_mapM_iff {ε α β : Type} (f : α → Except ε β) (as : List α) :
    (∃ bs, as.mapM f = .ok bs) ↔ ∀ a ∈ as, ∃ b, f a = .ok b := by
  induction as with
  | nil => simp [pure, Except.pure]
  | cons a as ih =>
    rw [List.forall_mem_cons, ← ih]
    apply Iff.intro
    · intro h
      obtain ⟨bs, h⟩ := h
      rw [List.mapM_cons] at h
      obtain ⟨b, hb, h⟩ := bind_eq_ok_iff.mp h
      obtain ⟨bs', hbs, _⟩ := bind_eq_ok_iff.mp h
      exact ⟨⟨b, hb⟩, bs', hbs⟩
    · intro h
      obtain ⟨⟨b, hb⟩, bs, hbs⟩ := h
      refine ⟨b :: bs, ?_⟩
      rw [List.mapM_cons, hb, hbs]
      rfl

end TableSchema
