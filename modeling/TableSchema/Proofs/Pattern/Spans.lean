import TableSchema.Pattern.Matching

/-!
# What a pattern matches

`Spans` says which stretch of a text a pattern matches, between what stands before and behind it, without
sets of places. `foundIn_iff`: a text contains a pattern exactly when the pattern spans a stretch of it.
-/

namespace TableSchema

def Repeated (R : List Char → List Char → List Char → Prop) :
    Nat → List Char → List Char → List Char → Prop
  | 0, _, w, _ => w = []
  | n + 1, b, w, a => ∃ u v, w = u ++ v ∧ R b u (v ++ a) ∧ Repeated R n (b ++ u) v a

/-- The pattern matches the stretch `w` between `b` and `a`. -/
def Pattern.Spans : Pattern → List Char → List Char → List Char → Prop
  | empty, _, w, _ => w = []
  | char k, _, w, _ => ∃ c, w = [c] ∧ k.contains c = true
  | look l, b, w, a => w = [] ∧ l.holds b.getLast? a.head? = true
  | seq p q, b, w, a => ∃ u v, w = u ++ v ∧ p.Spans b u (v ++ a) ∧ q.Spans (b ++ u) v a
  | alt p q, b, w, a => p.Spans b w a ∨ q.Spans b w a
  | times p least most, b, w, a =>
    ∃ n, least ≤ n ∧ (∀ m, most = some m → n ≤ max least m) ∧ Repeated p.Spans n b w a

/-! ## Steps between places -/

/-- `p` leads from place `i` of a text to place `j`. -/
def Pattern.Joins (p : Pattern) (s : List Char) (i j : Nat) : Prop :=
  ∃ b w a, s = b ++ w ++ a ∧ i = b.length ∧ j = b.length + w.length ∧ p.Spans b w a

def Steps (R : Nat → Nat → Prop) : Nat → Nat → Nat → Prop
  | 0, i, j => i = j
  | n + 1, i, j => ∃ k, R i k ∧ Steps R n k j

theorem steps_add (R : Nat → Nat → Prop) (m n : Nat) : ∀ i j,
    Steps R (m + n) i j ↔ ∃ k, Steps R m i k ∧ Steps R n k j := by
  induction m with
  | zero => intro i j; simp [Steps]
  | succ m ih =>
    intro i j
    rw [Nat.succ_add]
    apply Iff.intro
    · intro h
      obtain ⟨k, hk, h⟩ := h
      obtain ⟨l, hl, h⟩ := (ih k j).mp h
      exact ⟨l, ⟨k, hk, hl⟩, h⟩
    · intro h
      obtain ⟨l, ⟨k, hk, hl⟩, h⟩ := h
      exact ⟨k, hk, (ih k j).mpr ⟨l, hl, h⟩⟩

theorem steps_or_stay (R : Nat → Nat → Prop) (n : Nat) : ∀ i j,
    Steps (fun i j => i = j ∨ R i j) n i j ↔ ∃ m, m ≤ n ∧ Steps R m i j := by
  induction n with
  | zero => intro i j; simp [Steps]
  | succ n ih =>
    intro i j
    apply Iff.intro
    · intro h
      obtain ⟨k, hk, h⟩ := h
      obtain ⟨m, hm, h⟩ := (ih k j).mp h
      rcases hk with rfl | hk
      · exact ⟨m, by omega, h⟩
      · exact ⟨m + 1, by omega, k, hk, h⟩
    · intro h
      obtain ⟨m, hm, h⟩ := h
      cases m with
      | zero => exact ⟨i, Or.inl rfl, (ih i j).mpr ⟨0, by omega, h⟩⟩
      | succ m =>
        obtain ⟨k, hk, h⟩ := h
        exact ⟨k, Or.inr hk, (ih k j).mpr ⟨m, by omega, h⟩⟩

/-- Steps never go back, and those that stand still can be left out, so as many as there are places
between the ends will do. -/
theorem steps_short {R : Nat → Nat → Prop} (hR : ∀ i j, R i j → i ≤ j) (n : Nat) : ∀ i j,
    Steps R n i j → i ≤ j ∧ ∃ m, m ≤ j - i ∧ Steps R m i j := by
  induction n with
  | zero =>
    intro i j heq
    subst heq
    exact ⟨Nat.le_refl i, 0, by omega, rfl⟩
  | succ n ih =>
    intro i j h
    obtain ⟨k, hk, h⟩ := h
    obtain ⟨hkj, m, hm, h⟩ := ih k j h
    have hik := hR i k hk
    refine ⟨by omega, ?_⟩
    by_cases hs : i = k
    · subst hs; exact ⟨m, hm, h⟩
    · exact ⟨m + 1, by omega, k, hk, h⟩

theorem steps_le {R : Nat → Nat → Prop} {size : Nat} (hR : ∀ i j, i ≤ size → R i j → j ≤ size) (n : Nat) :
    ∀ i j, i ≤ size → Steps R n i j → j ≤ size := by
  induction n with
  | zero =>
    intro i j hi heq
    subst heq
    exact hi
  | succ n ih =>
    intro i j hi h
    obtain ⟨k, hk, h⟩ := h
    exact ih k j (hR i k hi hk) h

theorem steps_between (R : Nat → Nat → Prop) (least more i j : Nat) :
    (∃ k, Steps R least i k ∧ ∃ m, m ≤ more ∧ Steps R m k j) ↔
      ∃ n, least ≤ n ∧ n ≤ least + more ∧ Steps R n i j := by
  apply Iff.intro
  · intro h
    obtain ⟨k, hik, m, hm, hkj⟩ := h
    exact ⟨least + m, by omega, by omega, (steps_add R least m i j).mpr ⟨k, hik, hkj⟩⟩
  · intro h
    obtain ⟨n, hl, hm, h⟩ := h
    obtain ⟨m, rfl⟩ := Nat.le.dest hl
    obtain ⟨k, hik, hkj⟩ := (steps_add R least m i j).mp h
    exact ⟨k, hik, m, by omega, hkj⟩

/-- More steps behind the least number than there are places need not be taken. -/
theorem steps_least {R : Nat → Nat → Prop} {size : Nat} (hR : ∀ i j, R i j → i ≤ j)
    (hsize : ∀ i j, i ≤ size → R i j → j ≤ size) (least : Nat) {i : Nat} (hi : i ≤ size) (j : Nat) :
    (∃ n, least ≤ n ∧ n ≤ least + (size + 1) ∧ Steps R n i j) ↔ ∃ n, least ≤ n ∧ Steps R n i j := by
  apply Iff.intro
  · intro h
    obtain ⟨n, hl, _, h⟩ := h
    exact ⟨n, hl, h⟩
  · intro h
    obtain ⟨n, hl, h⟩ := h
    obtain ⟨m, rfl⟩ := Nat.le.dest hl
    obtain ⟨k, hik, hkj⟩ := (steps_add R least m i j).mp h
    have hk := steps_le hsize least i k hi hik
    have hj := steps_le hsize m k j hk hkj
    obtain ⟨_, l, hl, hkj⟩ := steps_short hR m k j hkj
    exact ⟨least + l, by omega, by omega, (steps_add R least l i j).mpr ⟨k, hik, hkj⟩⟩

/-! ## Sets of places -/

/-- `f` sends a set of places up to `size` to all the places that `R` reaches from it. -/
def Sends (size : Nat) (f : Nat → Nat) (R : Nat → Nat → Prop) : Prop :=
  ∀ places, (∀ i, places.testBit i = true → i ≤ size) →
    ∀ j, (f places).testBit j = true ↔ ∃ i, places.testBit i = true ∧ R i j

theorem applyTimes_fixed {f : Nat → Nat} {places : Nat} (h : f places = places) (n : Nat) :
    applyTimes f n places = places := by
  cases n with
  | zero => rfl
  | succ n => simp [applyTimes, h]

theorem applyTimes_succ (f : Nat → Nat) (n places : Nat) :
    applyTimes f (n + 1) places = applyTimes f n (f places) := by
  by_cases h : f places = places
  · rw [applyTimes_fixed h, h, applyTimes_fixed h]
  · simp [applyTimes, h]

theorem growTimes_eq (f : Nat → Nat) (n : Nat) : ∀ places,
    growTimes f n places = applyTimes (fun p => p ||| f p) n places := by
  induction n with
  | zero => intro places; rfl
  | succ n ih => intro places; simp only [growTimes, applyTimes, ih]

section
variable {size : Nat} {f : Nat → Nat} {R : Nat → Nat → Prop}

theorem Sends.comp {g : Nat → Nat} {T : Nat → Nat → Prop} (hf : Sends size f R) (hg : Sends size g T)
    (hR : ∀ i j, i ≤ size → R i j → j ≤ size) :
    Sends size (fun p => g (f p)) (fun i j => ∃ k, R i k ∧ T k j) := by
  intro places hp j
  have hfp : ∀ k, (f places).testBit k = true → k ≤ size := by
    intro k hk
    obtain ⟨i, hi, hik⟩ := (hf places hp k).mp hk
    exact hR i k (hp i hi) hik
  rw [hg (f places) hfp j]
  apply Iff.intro
  · intro h
    obtain ⟨k, hk, hkj⟩ := h
    obtain ⟨i, hi, hik⟩ := (hf places hp k).mp hk
    exact ⟨i, hi, k, hik, hkj⟩
  · intro h
    obtain ⟨i, hi, k, hik, hkj⟩ := h
    exact ⟨k, (hf places hp k).mpr ⟨i, hi, hik⟩, hkj⟩

theorem Sends.applyTimes (hf : Sends size f R) (hR : ∀ i j, i ≤ size → R i j → j ≤ size) (n : Nat) :
    Sends size (applyTimes f n) (Steps R n) := by
  induction n with
  | zero => intro places _ j; simp [TableSchema.applyTimes, Steps]
  | succ n ih =>
    intro places hp j
    rw [applyTimes_succ]
    exact (hf.comp ih hR) places hp j

theorem Sends.growTimes (hf : Sends size f R) (hR : ∀ i j, i ≤ size → R i j → j ≤ size) (n : Nat) :
    Sends size (growTimes f n) (fun i j => ∃ m, m ≤ n ∧ Steps R m i j) := by
  have hstay : Sends size (fun p => p ||| f p) (fun i j => i = j ∨ R i j) := by
    intro places hp j
    rw [Nat.testBit_or, Bool.or_eq_true, hf places hp j]
    apply Iff.intro
    · intro h
      rcases h with h | ⟨i, hi, hij⟩
      · exact ⟨j, h, Or.inl rfl⟩
      · exact ⟨i, hi, Or.inr hij⟩
    · intro h
      obtain ⟨i, hi, rfl | hij⟩ := h
      · exact Or.inl hi
      · exact Or.inr ⟨i, hi, hij⟩
  have hR' : ∀ i j, i ≤ size → i = j ∨ R i j → j ≤ size := by
    intro i j hi h
    rcases h with rfl | h
    · exact hi
    · exact hR i j hi h
  intro places hp j
  rw [growTimes_eq, hstay.applyTimes hR' n places hp j]
  simp only [steps_or_stay]

end

/-! ## Patterns as steps between places -/

/-- `R` holds of the stretch of a text from place `i` to place `j`. -/
def At (R : List Char → List Char → List Char → Prop) (s : List Char) (i j : Nat) : Prop :=
  ∃ b w a, s = b ++ w ++ a ∧ i = b.length ∧ j = b.length + w.length ∧ R b w a

theorem At.le {R : List Char → List Char → List Char → Prop} {s : List Char} {i j : Nat} (h : At R s i j) :
    i ≤ j ∧ j ≤ s.length := by
  obtain ⟨b, w, a, rfl, rfl, rfl, _⟩ := h
  simp only [List.length_append]
  omega

theorem at_append (R T : List Char → List Char → List Char → Prop) (s : List Char) (i j : Nat) :
    At (fun b w a => ∃ u v, w = u ++ v ∧ R b u (v ++ a) ∧ T (b ++ u) v a) s i j ↔
      ∃ k, At R s i k ∧ At T s k j := by
  apply Iff.intro
  · intro h
    obtain ⟨b, w, a, hs, hi, hj, u, v, rfl, hu, hv⟩ := h
    refine ⟨b.length + u.length, ⟨b, u, v ++ a, ?_, hi, rfl, hu⟩, b ++ u, v, a, ?_, ?_, ?_, hv⟩
    · simpa using hs
    · simpa using hs
    · simp
    · simp [hj, Nat.add_assoc]
  · intro h
    obtain ⟨k, ⟨b, u, a', hs, hi, hk, hu⟩, b', v, a, hs', hk', hj, hv⟩ := h
    -- both splits of the text have the middle place in common
    have hb : b' = b ++ u ∧ v ++ a = a' := by
      apply List.append_inj
      · rw [← List.append_assoc, ← hs', hs]
      · rw [List.length_append]; omega
    obtain ⟨rfl, rfl⟩ := hb
    refine ⟨b, u ++ v, a, ?_, hi, ?_, u, v, rfl, hu, hv⟩
    · simpa using hs
    · simp only [List.length_append] at hj ⊢; omega

theorem at_repeated (R : List Char → List Char → List Char → Prop) (s : List Char) (n : Nat) :
    ∀ i j, i ≤ s.length → (At (Repeated R n) s i j ↔ Steps (At R s) n i j) := by
  induction n with
  | zero =>
    intro i j hi
    apply Iff.intro
    · intro h
      obtain ⟨b, w, a, _, rfl, rfl, rfl⟩ := h
      simp [Steps]
    · intro heq
      subst heq
      exact ⟨s.take i, [], s.drop i, by simp, by simp [hi], by simp [hi], rfl⟩
  | succ n ih =>
    intro i j _
    refine (at_append R (Repeated R n) s i j).trans ?_
    exact exists_congr fun k => and_congr_right fun hk => ih k j hk.le.2

theorem Pattern.Joins.le {p : Pattern} {s : List Char} {i j : Nat} (h : p.Joins s i j) :
    i ≤ j ∧ j ≤ s.length :=
  At.le h

theorem joins_seq (p q : Pattern) (s : List Char) (i j : Nat) :
    (Pattern.seq p q).Joins s i j ↔ ∃ k, p.Joins s i k ∧ q.Joins s k j :=
  at_append p.Spans q.Spans s i j

theorem joins_alt (p q : Pattern) (s : List Char) (i j : Nat) :
    (Pattern.alt p q).Joins s i j ↔ p.Joins s i j ∨ q.Joins s i j := by
  apply Iff.intro
  · intro h
    obtain ⟨b, w, a, hs, hi, hj, h | h⟩ := h
    · exact Or.inl ⟨b, w, a, hs, hi, hj, h⟩
    · exact Or.inr ⟨b, w, a, hs, hi, hj, h⟩
  · intro h
    rcases h with ⟨b, w, a, hs, hi, hj, h⟩ | ⟨b, w, a, hs, hi, hj, h⟩
    · exact ⟨b, w, a, hs, hi, hj, Or.inl h⟩
    · exact ⟨b, w, a, hs, hi, hj, Or.inr h⟩

theorem joins_times (p : Pattern) (least : Nat) (most : Option Nat) (s : List Char) {i : Nat} (j : Nat)
    (hi : i ≤ s.length) : (Pattern.times p least most).Joins s i j ↔
      ∃ n, least ≤ n ∧ (∀ m, most = some m → n ≤ max least m) ∧ Steps (p.Joins s) n i j := by
  have hrepeated : ∀ n, Steps (p.Joins s) n i j ↔ At (Repeated p.Spans n) s i j := fun n =>
    (at_repeated p.Spans s n i j hi).symm
  simp only [hrepeated]
  apply Iff.intro
  · intro h
    obtain ⟨b, w, a, hs, hb, hj, n, hl, hm, h⟩ := h
    exact ⟨n, hl, hm, b, w, a, hs, hb, hj, h⟩
  · intro h
    obtain ⟨n, hl, hm, b, w, a, hs, hb, hj, h⟩ := h
    exact ⟨b, w, a, hs, hb, hj, n, hl, hm, h⟩

/-! ## Routes -/

theorem testBit_toNat_add (b : Bool) (n : Nat) (i : Nat) :
    (b.toNat + 2 * n).testBit (i + 1) = n.testBit i := by
  rw [Nat.testBit_add_one]
  congr 1
  have := Bool.toNat_lt b
  omega

theorem testBit_toNat_add_zero (b : Bool) (n : Nat) : (b.toNat + 2 * n).testBit 0 = b := by
  cases b <;> simp [Nat.testBit_zero]

theorem testBit_charPlaces (k : CharClass) : ∀ (s : List Char) (i : Nat),
    (charPlaces k s).testBit i = s[i]?.any k.contains
  | [], i => by simp [charPlaces]
  | c :: s, 0 => testBit_toNat_add_zero (k.contains c) (charPlaces k s)
  | c :: s, i + 1 => by simp [charPlaces, testBit_toNat_add, testBit_charPlaces k s i]

theorem testBit_lookPlaces (l : Look) : ∀ (b s : List Char) (i : Nat),
    (lookPlaces l b.getLast? s).testBit i =
      (decide (i ≤ s.length) && l.holds (b ++ s.take i).getLast? (s.drop i).head?)
  | b, [], 0 => by cases h : l.holds b.getLast? none <;> simp [lookPlaces, h]
  | b, [], i + 1 => by
    cases h : l.holds b.getLast? none <;> simp [lookPlaces, h, Nat.testBit_add_one]
  | b, c :: s, 0 => by
    rw [List.take_zero, List.append_nil, List.drop_zero, List.head?_cons]
    exact testBit_toNat_add_zero (l.holds b.getLast? (some c)) (lookPlaces l (some c) s)
  | b, c :: s, i + 1 => by
    have ih := testBit_lookPlaces l (b ++ [c]) s i
    simp only [List.getLast?_append, List.getLast?_singleton, Option.some_or, List.append_assoc,
      List.singleton_append] at ih
    simp [lookPlaces, testBit_toNat_add, ih]

theorem joins_char (k : CharClass) (s : List Char) (i j : Nat) :
    (Pattern.char k).Joins s i j ↔ s[i]?.any k.contains = true ∧ j = i + 1 := by
  apply Iff.intro
  · intro h
    obtain ⟨b, w, a, rfl, rfl, rfl, c, rfl, hc⟩ := h
    simp [hc]
  · intro h
    obtain ⟨hc, rfl⟩ := h
    rw [Option.any_eq_true] at hc
    obtain ⟨c, hi, hc⟩ := hc
    obtain ⟨hlt, rfl⟩ := List.getElem?_eq_some_iff.mp hi
    refine ⟨s.take i, [s[i]], s.drop (i + 1), ?_, ?_, ?_, s[i], rfl, hc⟩
    · rw [List.append_assoc, List.singleton_append, List.getElem_cons_drop, List.take_append_drop]
    · simp; omega
    · simp; omega

theorem joins_look (l : Look) (s : List Char) (i j : Nat) : (Pattern.look l).Joins s i j ↔
    (i ≤ s.length ∧ l.holds (s.take i).getLast? (s.drop i).head? = true) ∧ i = j := by
  apply Iff.intro
  · intro h
    obtain ⟨b, w, a, rfl, rfl, rfl, rfl, h⟩ := h
    simpa using h
  · intro h
    obtain ⟨⟨hi, h⟩, rfl⟩ := h
    exact ⟨s.take i, [], s.drop i, by simp, by simp [hi], by simp [hi], rfl, h⟩

/-- The route of a pattern leads where the pattern does. -/
theorem sends_ends (s : List Char) (p : Pattern) :
    Sends s.length ((p.route s).ends s.length) (p.Joins s) := by
  induction p with
  | empty =>
    intro places hp j
    simp only [Pattern.route, Route.ends]
    apply Iff.intro
    · intro hj
      have := hp j hj
      exact ⟨j, hj, s.take j, [], s.drop j, by simp, by simp [this], by simp [this], rfl⟩
    · intro h
      obtain ⟨_, hi, b, w, a, _, rfl, rfl, rfl⟩ := h
      simpa using hi
  | char k =>
    intro places hp j
    simp only [Pattern.route, Route.ends, Nat.testBit_shiftLeft, Nat.testBit_and, testBit_charPlaces,
      Bool.and_eq_true, decide_eq_true_eq, joins_char]
    apply Iff.intro
    · intro h
      obtain ⟨hj, hi, hc⟩ := h
      exact ⟨j - 1, hi, hc, by omega⟩
    · intro h
      obtain ⟨i, hi, hc, rfl⟩ := h
      simpa using ⟨hi, hc⟩
  | look l =>
    intro places hp j
    have hl := testBit_lookPlaces l [] s j
    rw [List.getLast?_nil, List.nil_append] at hl
    simp only [Pattern.route, Route.ends, Nat.testBit_and, hl, Bool.and_eq_true, decide_eq_true_eq,
      joins_look]
    apply Iff.intro
    · intro h
      obtain ⟨hj, h⟩ := h
      exact ⟨j, hj, h, rfl⟩
    · intro h
      obtain ⟨i, hi, h, rfl⟩ := h
      exact ⟨hi, h⟩
  | seq p q ihp ihq =>
    intro places hp j
    simp only [joins_seq]
    exact (ihp.comp ihq fun _ _ _ h => h.le.2) places hp j
  | alt p q ihp ihq =>
    intro places hp j
    simp only [Pattern.route, Route.ends, Nat.testBit_or, Bool.or_eq_true, ihp places hp j, ihq places hp j,
      joins_alt, and_or_left, exists_or]
  | times p least most ih =>
    have hR : ∀ i j, i ≤ s.length → p.Joins s i j → j ≤ s.length := fun _ _ _ h => h.le.2
    have hbegun := ih.applyTimes hR least
    intro places hp j
    cases most with
    | none =>
      have hgrown := hbegun.comp (ih.growTimes hR (s.length + 1)) (steps_le hR least) places hp j
      refine hgrown.trans (exists_congr fun i => and_congr_right fun hi => (steps_between _ _ _ i j).trans ?_)
      rw [joins_times p least none s j (hp i hi), steps_least (fun _ _ h => h.le.1) hR least (hp i hi)]
      simp
    | some most =>
      have hgrown := hbegun.comp (ih.growTimes hR (most - least)) (steps_le hR least) places hp j
      refine hgrown.trans (exists_congr fun i => and_congr_right fun hi => (steps_between _ _ _ i j).trans ?_)
      have hmost : least + (most - least) = max least most := by omega
      rw [joins_times p least (some most) s j (hp i hi), hmost]
      simp

theorem foundIn_iff (p : Pattern) (s : List Char) :
    p.foundIn s = true ↔ ∃ b w a, s = b ++ w ++ a ∧ p.Spans b w a := by
  have hall : ∀ i, (Nat.pow 2 (s.length + 1) - 1).testBit i = true ↔ i ≤ s.length := by
    intro i
    rw [Nat.pow_eq, Nat.testBit_two_pow_sub_one, decide_eq_true_eq]
    omega
  have hsends := sends_ends s p (Nat.pow 2 (s.length + 1) - 1) fun i => (hall i).mp
  unfold Pattern.foundIn
  rw [bne_iff_ne]
  apply Iff.intro
  · intro hne
    obtain ⟨j, hj⟩ := Nat.exists_testBit_of_ne_zero hne
    obtain ⟨i, _, b, w, a, hs, _, _, h⟩ := (hsends j).mp hj
    exact ⟨b, w, a, hs, h⟩
  · intro h h0
    obtain ⟨b, w, a, hs, h⟩ := h
    have hj : p.Joins s b.length (b.length + w.length) := ⟨b, w, a, hs, rfl, rfl, h⟩
    have hb : b.length ≤ s.length := Nat.le_trans hj.le.1 hj.le.2
    have := (hsends _).mpr ⟨b.length, (hall _).mpr hb, hj⟩
    rw [h0, Nat.zero_testBit] at this
    exact Bool.false_ne_true this

end TableSchema
