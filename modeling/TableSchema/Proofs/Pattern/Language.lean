import TableSchema.Proofs.Pattern.Spans

/-!
# The texts that a pattern describes

A pattern without looks matches a stretch whatever stands around it, so it describes a set of texts, and
looks for both ends of a text in front of it and behind it ask for the whole text (`foundIn_between_ends`).
`not_mem_of_rejects` reads off a pattern which characters its texts are free of.
-/

namespace TableSchema

namespace Pattern

def lookFree : Pattern → Bool
  | look _ => false
  | seq p q => p.lookFree && q.lookFree
  | alt p q => p.lookFree && q.lookFree
  | times p _ _ => p.lookFree
  | _ => true

/-- The whole text matches. -/
def Describes (p : Pattern) (w : List Char) : Prop :=
  p.Spans [] w []

def rejects (c : Char) : Pattern → Bool
  | char k => !k.contains c
  | seq p q => p.rejects c && q.rejects c
  | alt p q => p.rejects c && q.rejects c
  | times p _ _ => p.rejects c
  | _ => true

def AllClasses (Q : CharClass → Prop) : Pattern → Prop
  | char k => Q k
  | seq p q => p.AllClasses Q ∧ q.AllClasses Q
  | alt p q => p.AllClasses Q ∧ q.AllClasses Q
  | times p _ _ => p.AllClasses Q
  | _ => True

theorem AllClasses.mono {Q R : CharClass → Prop} (hQR : ∀ k, Q k → R k) {p : Pattern}
    (h : p.AllClasses Q) : p.AllClasses R := by
  induction p with
  | empty => exact h
  | look l => exact h
  | char k => exact hQR k h
  | seq p q ihp ihq => exact ⟨ihp h.1, ihq h.2⟩
  | alt p q ihp ihq => exact ⟨ihp h.1, ihq h.2⟩
  | times p least most ih => exact ih h

theorem rejects_iff_allClasses (c : Char) (p : Pattern) :
    p.rejects c = true ↔ p.AllClasses fun k => k.contains c = false := by
  induction p with
  | empty => exact iff_of_true rfl trivial
  | look l => exact iff_of_true rfl trivial
  | char k => simp [rejects, AllClasses]
  | seq p q ihp ihq => simp only [rejects, AllClasses, Bool.and_eq_true, ihp, ihq]
  | alt p q ihp ihq => simp only [rejects, AllClasses, Bool.and_eq_true, ihp, ihq]
  | times p least most ih => exact ih

end Pattern

theorem repeated_context {R : List Char → List Char → List Char → Prop}
    (hR : ∀ b w a b' a', R b w a → R b' w a') (n : Nat) : ∀ b w a b' a',
    Repeated R n b w a → Repeated R n b' w a' := by
  induction n with
  | zero => intro b w a b' a' h; exact h
  | succ n ih =>
    intro b w a b' a' h
    obtain ⟨u, v, rfl, hu, hv⟩ := h
    exact ⟨u, v, rfl, hR _ _ _ _ _ hu, ih _ _ _ _ _ hv⟩

theorem spans_context {p : Pattern} (hp : p.lookFree = true) : ∀ b w a b' a',
    p.Spans b w a → p.Spans b' w a' := by
  induction p with
  | empty => intro b w a b' a' h; exact h
  | char k => intro b w a b' a' h; exact h
  | look l => cases hp
  | seq p q ihp ihq =>
    simp only [Pattern.lookFree, Bool.and_eq_true] at hp
    intro b w a b' a' h
    obtain ⟨u, v, rfl, hu, hv⟩ := h
    exact ⟨u, v, rfl, ihp hp.1 _ _ _ _ _ hu, ihq hp.2 _ _ _ _ _ hv⟩
  | alt p q ihp ihq =>
    simp only [Pattern.lookFree, Bool.and_eq_true] at hp
    intro b w a b' a' h
    rcases h with h | h
    · exact Or.inl (ihp hp.1 _ _ _ _ _ h)
    · exact Or.inr (ihq hp.2 _ _ _ _ _ h)
  | times p least most ih =>
    intro b w a b' a' h
    obtain ⟨n, hl, hm, h⟩ := h
    exact ⟨n, hl, hm, repeated_context (ih hp) n _ _ _ _ _ h⟩

theorem spans_iff_describes {p : Pattern} (hp : p.lookFree = true) (b w a : List Char) :
    p.Spans b w a ↔ p.Describes w :=
  ⟨spans_context hp b w a [] [], spans_context hp [] w [] b a⟩

theorem repeated_all {R : List Char → List Char → List Char → Prop} {P : Char → Prop}
    (hR : ∀ b w a, R b w a → ∀ c ∈ w, P c) (n : Nat) : ∀ b w a,
    Repeated R n b w a → ∀ c ∈ w, P c := by
  induction n with
  | zero =>
    intro b w a heq c hc
    subst heq
    cases hc
  | succ n ih =>
    intro b w a h c hc
    obtain ⟨u, v, rfl, hu, hv⟩ := h
    rcases List.mem_append.mp hc with hc | hc
    · exact hR _ _ _ hu c hc
    · exact ih _ _ _ hv c hc

theorem not_mem_of_rejects {p : Pattern} {c : Char} (hp : p.rejects c = true) : ∀ b w a,
    p.Spans b w a → c ∉ w := by
  induction p with
  | empty =>
    intro b w a heq
    subst heq
    exact List.not_mem_nil
  | look l =>
    intro b w a h
    obtain ⟨rfl, _⟩ := h
    exact List.not_mem_nil
  | char k =>
    simp only [Pattern.rejects, Bool.not_eq_true'] at hp
    intro b w a h hc
    obtain ⟨d, rfl, hd⟩ := h
    rw [List.mem_singleton] at hc
    rw [← hc, hp] at hd
    exact Bool.false_ne_true hd
  | seq p q ihp ihq =>
    simp only [Pattern.rejects, Bool.and_eq_true] at hp
    intro b w a h hc
    obtain ⟨u, v, rfl, hu, hv⟩ := h
    rcases List.mem_append.mp hc with hc | hc
    · exact ihp hp.1 _ _ _ hu hc
    · exact ihq hp.2 _ _ _ hv hc
  | alt p q ihp ihq =>
    simp only [Pattern.rejects, Bool.and_eq_true] at hp
    intro b w a h
    rcases h with h | h
    · exact ihp hp.1 _ _ _ h
    · exact ihq hp.2 _ _ _ h
  | times p least most ih =>
    intro b w a h hc
    obtain ⟨n, _, _, h⟩ := h
    have hfree : ∀ b w a, p.Spans b w a → ∀ d ∈ w, d ≠ c := by
      intro b w a hw d hd e
      exact ih hp b w a hw (e ▸ hd)
    exact repeated_all hfree n b w a h c hc rfl

/-! ## Descriptions by their parts -/

theorem describes_char (k : CharClass) (w : List Char) :
    (Pattern.char k).Describes w ↔ ∃ c, w = [c] ∧ k.contains c = true :=
  Iff.rfl

theorem describes_seq {p q : Pattern} (hp : p.lookFree = true) (hq : q.lookFree = true) (w : List Char) :
    (Pattern.seq p q).Describes w ↔ ∃ u v, w = u ++ v ∧ p.Describes u ∧ q.Describes v := by
  apply Iff.intro
  · intro h
    obtain ⟨u, v, rfl, hu, hv⟩ := h
    exact ⟨u, v, rfl, (spans_iff_describes hp _ _ _).mp hu, (spans_iff_describes hq _ _ _).mp hv⟩
  · intro h
    obtain ⟨u, v, rfl, hu, hv⟩ := h
    exact ⟨u, v, rfl, (spans_iff_describes hp _ _ _).mpr hu, (spans_iff_describes hq _ _ _).mpr hv⟩

theorem describes_opt {p : Pattern} (w : List Char) :
    p.opt.Describes w ↔ w = [] ∨ p.Describes w := by
  apply Iff.intro
  · intro h
    obtain ⟨n, _, hn, h⟩ := h
    have := hn 1 rfl
    rcases n with _ | _ | n
    · exact Or.inl h
    · obtain ⟨u, v, rfl, hu, rfl⟩ := h
      rw [List.append_nil]
      exact Or.inr hu
    · omega
  · intro h
    rcases h with rfl | h
    · exact ⟨0, by omega, by simp, rfl⟩
    · exact ⟨1, by omega, by simp, w, [], (List.append_nil w).symm, h, rfl⟩

theorem not_mem_of_describes {p : Pattern} {c : Char} (hp : p.rejects c = true) {w : List Char}
    (h : p.Describes w) : c ∉ w :=
  not_mem_of_rejects hp [] w [] h

theorem forall_mem_of_describes {P : Char → Prop} {p : Pattern}
    (hp : p.AllClasses fun k => ∀ c, k.contains c = true → P c) {w : List Char} (h : p.Describes w) :
    ∀ c ∈ w, P c := by
  intro c hc
  apply Classical.byContradiction
  intro hno
  refine not_mem_of_describes ((Pattern.rejects_iff_allClasses c p).mpr ?_) h hc
  refine hp.mono ?_
  intro k hk
  rw [← Bool.not_eq_true]
  exact fun hkc => hno (hk c hkc)

theorem describes_sequence {p : Pattern} {ps : List Pattern} (hp : p.lookFree = true)
    (hps : (Pattern.sequence ps).lookFree = true) (w : List Char) :
    (Pattern.sequence (p :: ps)).Describes w ↔
      ∃ u v, w = u ++ v ∧ p.Describes u ∧ (Pattern.sequence ps).Describes v := by
  cases ps with
  | nil =>
    apply Iff.intro
    · intro h
      exact ⟨w, [], (List.append_nil w).symm, h, rfl⟩
    · intro h
      obtain ⟨u, v, hw, hu, hv⟩ := h
      have hv : v = [] := hv
      rw [hw, hv, List.append_nil]
      exact hu
  | cons q ps => exact describes_seq hp hps w

theorem describes_plus_append {p : Pattern} (hp : p.lookFree = true) {u v : List Char} (hu : p.Describes u)
    (hv : p.plus.Describes v) : p.plus.Describes (u ++ v) := by
  obtain ⟨n, hl, _, h⟩ := hv
  refine ⟨n + 1, Nat.le_succ_of_le hl, by simp, u, v, rfl, ?_, ?_⟩
  · exact (spans_iff_describes hp _ _ _).mpr hu
  · exact repeated_context (spans_context hp) n _ _ _ _ _ h

/-! ## Between the ends of a text -/

theorem sequence_cons (p : Pattern) {ps : List Pattern} (h : ps ≠ []) :
    Pattern.sequence (p :: ps) = .seq p (.sequence ps) := by
  cases ps with
  | nil => exact absurd rfl h
  | cons q ps => rfl

theorem lookFree_of_sequence_cons {p : Pattern} {ps : List Pattern}
    (h : (Pattern.sequence (p :: ps)).lookFree = true) :
    p.lookFree = true ∧ (Pattern.sequence ps).lookFree = true := by
  cases ps with
  | nil => exact ⟨h, rfl⟩
  | cons q ps => exact Bool.and_eq_true_iff.mp h

theorem spans_sequence_textEnd {ps : List Pattern} (hps : (Pattern.sequence ps).lookFree = true)
    (b w a : List Char) : (Pattern.sequence (ps ++ [.look .textEnd])).Spans b w a ↔
      a = [] ∧ (Pattern.sequence ps).Describes w := by
  induction ps generalizing b w with
  | nil => simp [Pattern.sequence, Pattern.Spans, Pattern.Describes, Look.holds, and_comm]
  | cons p ps ih =>
    obtain ⟨hp, hps⟩ := lookFree_of_sequence_cons hps
    rw [List.cons_append, sequence_cons p (by simp), describes_sequence hp hps]
    apply Iff.intro
    · intro h
      obtain ⟨u, v, rfl, hu, hv⟩ := h
      obtain ⟨ha, hv⟩ := (ih hps _ v).mp hv
      exact ⟨ha, u, v, rfl, (spans_iff_describes hp _ _ _).mp hu, hv⟩
    · intro h
      obtain ⟨ha, u, v, rfl, hu, hv⟩ := h
      exact ⟨u, v, rfl, (spans_iff_describes hp _ _ _).mpr hu, (ih hps _ v).mpr ⟨ha, hv⟩⟩

/-- Looks for both ends of the text leave no room around the parts between them. -/
theorem foundIn_between_ends (ps : List Pattern) (hps : (Pattern.sequence ps).lookFree = true)
    (s : List Char) : (Pattern.sequence (.look .textStart :: (ps ++ [.look .textEnd]))).foundIn s = true ↔
      (Pattern.sequence ps).Describes s := by
  rw [foundIn_iff, sequence_cons _ (by simp)]
  apply Iff.intro
  · intro h
    obtain ⟨b, w, a, rfl, _, v, rfl, ⟨rfl, hb⟩, hv⟩ := h
    obtain ⟨rfl, hall⟩ := (spans_sequence_textEnd hps _ v a).mp hv
    have hb : b = [] := by simpa [Look.holds] using hb
    simpa [hb] using hall
  · intro h
    exact ⟨[], s, [], by simp, [], s, rfl, ⟨rfl, rfl⟩, (spans_sequence_textEnd hps _ s []).mpr ⟨rfl, h⟩⟩

theorem describes_iff_foundIn {p : Pattern} (hp : p.lookFree = true) (s : List Char) : p.Describes s ↔
    (Pattern.sequence [.look .textStart, p, .look .textEnd]).foundIn s = true :=
  (foundIn_between_ends [p] hp s).symm

/-! ## Repeated characters -/

theorem repeated_char (k : CharClass) (n : Nat) : ∀ b w a,
    Repeated (Pattern.char k).Spans n b w a ↔ w.length = n ∧ ∀ c ∈ w, k.contains c = true := by
  induction n with
  | zero =>
    intro b w a
    unfold Repeated
    rw [List.length_eq_zero_iff]
    apply Iff.intro
    · intro h; subst h; simp
    · intro h; exact h.1
  | succ n ih =>
    intro b w a
    apply Iff.intro
    · intro h
      obtain ⟨u, v, hw, ⟨c, hu, hc⟩, hv⟩ := h
      subst hw hu
      obtain ⟨hlen, hall⟩ := (ih _ _ _).mp hv
      simp [hlen, hc]
      exact hall
    · intro h
      cases w with
      | nil => simp at h
      | cons c w =>
        refine ⟨[c], w, rfl, ⟨c, rfl, h.2 c (by simp)⟩, (ih _ _ _).mpr ⟨by simpa using h.1, ?_⟩⟩
        intro d hd
        exact h.2 d (by simp [hd])

theorem describes_times_char (k : CharClass) (least : Nat) (most : Option Nat) (w : List Char) :
    (Pattern.times (.char k) least most).Describes w ↔ least ≤ w.length ∧
      (∀ m, most = some m → w.length ≤ max least m) ∧ ∀ c ∈ w, k.contains c = true := by
  apply Iff.intro
  · intro h
    obtain ⟨n, hl, hm, h⟩ := h
    obtain ⟨hn, hall⟩ := (repeated_char k n _ _ _).mp h
    subst hn
    exact ⟨hl, hm, hall⟩
  · intro h
    exact ⟨w.length, h.1, h.2.1, (repeated_char k _ _ _ _).mpr ⟨rfl, h.2.2⟩⟩

theorem contains_single (c d : Char) : (CharClass.single c).contains d = true ↔ d = c := by
  simp only [CharClass.single, CharClass.contains, Bool.and_eq_true, decide_eq_true_eq]
  apply Iff.intro
  · intro h; exact Char.le_antisymm h.2 h.1
  · intro h; subst h; exact ⟨Char.le_refl d, Char.le_refl d⟩

end TableSchema
