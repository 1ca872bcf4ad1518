import TableSchema.Number.Digits

/-!
# Written digits are read back

Padded numbers are runs of digits that spell the number, so readers of a fixed width take them whole.
-/

namespace TableSchema

theorem spelled_map_digitValue (s : List Char) : spelled (s.map digitValue) = Nat.ofDigitChars 10 s 0 := by
  unfold spelled
  rw [List.foldl_map, Nat.ofDigitChars_eq_foldl]
  rfl

theorem foldl_spelled (ds : List Nat) (v : Nat) :
    ds.foldl (fun v d => 10 * v + d) v = Nat.pow 10 ds.length * v + spelled ds := by
  unfold spelled
  induction ds generalizing v with
  | nil => simp
  | cons d ds ih =>
    have hpow : Nat.pow 10 (d :: ds).length = Nat.pow 10 ds.length * 10 := rfl
    rw [List.foldl_cons, List.foldl_cons, ih, ih (10 * 0 + d), hpow, Nat.mul_add, Nat.mul_assoc]
    simp [Nat.add_assoc]

theorem spelled_append (ds es : List Nat) :
    spelled (ds ++ es) = Nat.pow 10 es.length * spelled ds + spelled es := by
  have hfront : (ds ++ es).foldl (fun v d => 10 * v + d) 0 = es.foldl (fun v d => 10 * v + d) (spelled ds) :=
    List.foldl_append
  rw [← foldl_spelled, ← hfront]
  rfl

theorem spelled_zeros (n : Nat) : spelled (List.replicate n 0) = 0 := by
  induction n with
  | zero => rfl
  | succ n ih =>
    rw [List.replicate_succ', spelled_append, ih]
    rfl

theorem spelled_lt {ds : List Nat} (h : ∀ d ∈ ds, d < 10) : spelled ds < Nat.pow 10 ds.length := by
  induction ds with
  | nil => decide
  | cons d ds ih =>
    have hd : d < 10 := h d List.mem_cons_self
    have hrest := ih fun e he => h e (List.mem_cons_of_mem d he)
    have hone : spelled [d] = d := by simp [spelled]
    have hpow : Nat.pow 10 (d :: ds).length = Nat.pow 10 ds.length * 10 := rfl
    rw [← List.singleton_append, spelled_append, hone, List.singleton_append, hpow]
    calc Nat.pow 10 ds.length * d + spelled ds
        < Nat.pow 10 ds.length * d + Nat.pow 10 ds.length := Nat.add_lt_add_left hrest _
      _ = Nat.pow 10 ds.length * (d + 1) := rfl
      _ ≤ Nat.pow 10 ds.length * 10 := Nat.mul_le_mul_left _ hd

theorem digitValue_lt {c : Char} (h : isAsciiDigit c = true) : digitValue c < 10 := by
  have hn : 48 ≤ c.toNat ∧ c.toNat ≤ 57 := by
    simpa [isAsciiDigit, Char.le_def, UInt32.le_iff_toNat_le] using h
  have hzero : '0'.toNat = 48 := rfl
  unfold digitValue
  omega

/-! ## Padded numbers -/

theorem padded_digits (width n : Nat) : ∀ c ∈ padded width n, isAsciiDigit c = true := by
  intro c hc
  unfold padded at hc
  rcases List.mem_append.mp hc with h | h
  · rw [List.eq_of_mem_replicate h]
    decide
  · have := Nat.isDigit_of_mem_toDigits (by decide) (by decide) h
    simpa [Char.isDigit, isAsciiDigit, Char.le_def] using this

theorem spelled_padded (width n : Nat) : spelled ((padded width n).map digitValue) = n := by
  unfold padded
  rw [spelled_map_digitValue, Nat.ofDigitChars_append, Nat.ofDigitChars_replicate_zero, Nat.mul_zero,
    Nat.ofDigitChars_ten_toDigits]

theorem length_padded {width n : Nat} (hw : 0 < width) (hn : n < Nat.pow 10 width) :
    (padded width n).length = width := by
  have hle : (Nat.toDigits 10 n).length ≤ width := (Nat.length_toDigits_le_iff (by decide) hw).mpr hn
  unfold padded
  rw [List.length_append, List.length_replicate]
  omega

theorem padded_ne_nil (width n : Nat) : padded width n ≠ [] := by
  unfold padded
  intro h
  exact Nat.toDigits_ne_nil (List.append_eq_nil_iff.mp h).2

/-! ## Reading -/

theorem fixedDigits?_padded {width n : Nat} (hw : 0 < width) (hn : n < Nat.pow 10 width) (s : List Char) :
    fixedDigits? width (padded width n ++ s) = some (n, s) := by
  have hlen := length_padded hw hn
  have htake : (padded width n ++ s).take width = padded width n := List.take_left' hlen
  have hdrop : (padded width n ++ s).drop width = s := List.drop_left' hlen
  unfold fixedDigits?
  simp only [htake, hdrop]
  rw [if_pos ⟨hlen, List.all_eq_true.mpr (padded_digits width n)⟩, spelled_padded]

theorem padded_append_inj {width m n : Nat} {s u : List Char} (hw : 0 < width) (hm : m < Nat.pow 10 width)
    (hn : n < Nat.pow 10 width) (h : padded width m ++ s = padded width n ++ u) : m = n ∧ s = u := by
  have hread := fixedDigits?_padded hw hm s
  rw [h, fixedDigits?_padded hw hn u] at hread
  have hpair := Prod.mk.inj (Option.some.inj hread)
  exact ⟨hpair.1.symm, hpair.2.symm⟩

theorem fixedDigits?_of_head {c : Char} (hc : isAsciiDigit c = false) (width : Nat) (s : List Char) :
    fixedDigits? (width + 1) (c :: s) = none := by
  unfold fixedDigits?
  simp [hc]

theorem leadingDigits_append {ds s : List Char} (hds : ∀ c ∈ ds, isAsciiDigit c = true)
    (hs : ∀ c, s.head? = some c → isAsciiDigit c = false) :
    leadingDigits (ds ++ s) = (ds.map digitValue, s) := by
  unfold leadingDigits
  rw [List.takeWhile_append_of_pos hds, List.dropWhile_append_of_pos hds]
  cases s with
  | nil => simp
  | cons c s => simp [hs c rfl]

theorem digits?_append {ds s : List Char} (hne : ds ≠ []) (hds : ∀ c ∈ ds, isAsciiDigit c = true)
    (hs : ∀ c, s.head? = some c → isAsciiDigit c = false) :
    digits? (ds ++ s) = some (ds.map digitValue, s) := by
  unfold digits?
  rw [leadingDigits_append hds hs]
  cases ds with
  | nil => exact absurd rfl hne
  | cons d ds => rfl

theorem upToDigits?_padded {width n : Nat} (hw : 0 < width) (hn : n < Nat.pow 10 width) (s : List Char) :
    upToDigits? width (padded width n ++ s) = some (n, s) := by
  have hlen := length_padded hw hn
  have htake : (padded width n ++ s).take width = padded width n := List.take_left' hlen
  have hdrop : (padded width n ++ s).drop (padded width n).length = s := List.drop_left
  have happend : (padded width n ++ []).takeWhile isAsciiDigit = padded width n ++ [].takeWhile isAsciiDigit :=
    List.takeWhile_append_of_pos (padded_digits width n)
  have hall : (padded width n).takeWhile isAsciiDigit = padded width n := by simpa using happend
  have hspelled := spelled_padded width n
  unfold upToDigits?
  rw [htake, hall]
  cases hp : padded width n with
  | nil => exact absurd hp (padded_ne_nil width n)
  | cons c ds =>
    rw [hp] at hdrop hspelled
    simp only
    rw [hdrop, hspelled]

theorem head?_padded (width n : Nat) (s : List Char) :
    ∃ c, (padded width n ++ s).head? = some c ∧ isAsciiDigit c = true := by
  cases h : padded width n with
  | nil => exact absurd h (padded_ne_nil width n)
  | cons c ds => exact ⟨c, rfl, padded_digits width n c (by simp [h])⟩

theorem getLast?_padded (s : List Char) (width n : Nat) :
    ∃ c, (s ++ padded width n).getLast? = some c ∧ isAsciiDigit c = true := by
  have hne := padded_ne_nil width n
  refine ⟨_, ?_, padded_digits width n _ (List.getLast_mem hne)⟩
  rw [List.getLast?_append, List.getLast?_eq_some_getLast hne, Option.some_or]

theorem getLast?_of_upToDigits? {width n : Nat} {s : List Char} (h : upToDigits? width s = some (n, [])) :
    ∃ c, s.getLast? = some c ∧ isAsciiDigit c = true := by
  unfold upToDigits? at h
  have htake : s.take width <+: s := List.take_prefix _ _
  have hdigits : (s.take width).takeWhile isAsciiDigit <+: s.take width := List.takeWhile_prefix _
  have hpre := hdigits.trans htake
  cases hf : (s.take width).takeWhile isAsciiDigit with
  | nil =>
    rw [hf] at h
    cases h
  | cons d front =>
    rw [hf] at h hpre
    obtain ⟨rest, hrest⟩ := hpre
    have hdrop : s.drop (d :: front).length = [] := (Prod.mk.inj (Option.some.inj h)).2
    rw [← hrest, List.drop_left] at hdrop
    rw [hdrop, List.append_nil] at hrest
    have hmem : (d :: front).getLast (List.cons_ne_nil d front) ∈ (s.take width).takeWhile isAsciiDigit := by
      rw [hf]
      exact List.getLast_mem _
    refine ⟨_, ?_, List.all_eq_true.mp List.all_takeWhile _ hmem⟩
    rw [← hrest, List.getLast?_eq_some_getLast (List.cons_ne_nil d front)]

theorem digits?_suffix {s rest : List Char} {ds : List Nat} (h : digits? s = some (ds, rest)) :
    rest <:+ s := by
  unfold digits? leadingDigits at h
  cases hd : (s.takeWhile isAsciiDigit).map digitValue with
  | nil =>
    rw [hd] at h
    cases h
  | cons d ds' =>
    rw [hd] at h
    rw [← (Prod.mk.inj (Option.some.inj h)).2]
    exact List.dropWhile_suffix _

theorem upToDigits?_suffix {width n : Nat} {s rest : List Char} (h : upToDigits? width s = some (n, rest)) :
    rest <:+ s := by
  unfold upToDigits? at h
  cases hf : (s.take width).takeWhile isAsciiDigit with
  | nil =>
    rw [hf] at h
    cases h
  | cons d front =>
    rw [hf] at h
    rw [← (Prod.mk.inj (Option.some.inj h)).2]
    exact List.drop_suffix _ _

end TableSchema
