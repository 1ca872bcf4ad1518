import TableSchema.Proofs.Calendar.Leap

/-!
# Written dates are read back

`ofText?_millis`: the text of a moment with milliseconds is read as what it shows, cut to whole milliseconds,
if the year has up to four digits in UTC, and else it is not read at all.
-/

namespace TableSchema

namespace Instant

/-- The moment without what is less than a millisecond. -/
def cut (t : Instant) : Instant :=
  ⟨t.seconds, t.nanos / 1000000 * 1000000, by have := t.nanos_lt; omega⟩

theorem regular_cut {t : Instant} (h : t.Regular) : t.cut.Regular := by
  have hends : t.nanos < 1000000000 ∨ t.seconds % 60 = 59 := h
  have hcut : t.nanos / 1000000 * 1000000 < 1000000000 ∨ t.seconds % 60 = 59 := by omega
  exact hcut

theorem cut_eq_self_iff (t : Instant) : t.cut = t ↔ t.nanos % 1000000 = 0 := by
  cases t with
  | mk seconds nanos nanos_lt =>
    unfold cut
    rw [Instant.mk.injEq]
    simp only [true_and]
    omega

/-! ## Trimming -/

theorem isBlank_of_digit {c : Char} (h : isAsciiDigit c = true) : isBlank c = false := by
  have hn : 48 ≤ c.toNat ∧ c.toNat ≤ 57 := by
    simpa [isAsciiDigit, Char.le_def, UInt32.le_iff_toNat_le] using h
  simp only [isBlank, Bool.or_eq_false_iff, Bool.and_eq_false_iff, decide_eq_false_iff_not,
    beq_eq_false_iff_ne]
  omega

theorem dropWhile_blank_append {s rest : List Char} (hs : ∀ c ∈ s, isBlank c = true)
    (hrest : ∃ c, rest.head? = some c ∧ isBlank c = false) : (s ++ rest).dropWhile isBlank = rest := by
  obtain ⟨c, hc, hblank⟩ := hrest
  rw [List.dropWhile_append_of_pos hs]
  cases rest with
  | nil => cases hc
  | cons d rest =>
    rw [← Option.some.inj hc] at hblank
    simp [hblank]

theorem trim_between {before w after : List Char} (hbefore : ∀ c ∈ before, isBlank c = true)
    (hafter : ∀ c ∈ after, isBlank c = true) (hhead : ∃ c, w.head? = some c ∧ isBlank c = false)
    (hlast : ∃ c, w.getLast? = some c ∧ isBlank c = false) : trim (before ++ (w ++ after)) = w := by
  have hfront : ∃ c, (w ++ after).head? = some c ∧ isBlank c = false := by
    obtain ⟨c, hc, hblank⟩ := hhead
    exact ⟨c, by rw [List.head?_append, hc, Option.some_or], hblank⟩
  have hback : ∃ c, w.reverse.head? = some c ∧ isBlank c = false := by
    rwa [List.head?_reverse]
  have hreversed : ∀ c ∈ after.reverse, isBlank c = true := by
    intro c hc
    exact hafter c (List.mem_reverse.mp hc)
  unfold trim
  rw [dropWhile_blank_append hbefore hfront, List.reverse_append, dropWhile_blank_append hreversed hback,
    List.reverse_reverse]

/-! ## The written text -/

theorem yearText_of_four {y : Int} (h : 0 ≤ y ∧ y ≤ 9999) : yearText y = padded 4 y.natAbs := by
  unfold yearText
  rw [if_pos h]

theorem yearText_of_not_four {y : Int} (h : ¬ (0 ≤ y ∧ y ≤ 9999)) :
    ∃ c, yearText y = c :: padded 4 y.natAbs ∧ isAsciiDigit c = false ∧ isBlank c = false := by
  unfold yearText
  rw [if_neg h]
  by_cases hneg : y < 0
  · rw [if_pos hneg]
    exact ⟨'-', rfl, by decide, by decide⟩
  · rw [if_neg hneg]
    exact ⟨'+', rfl, by decide, by decide⟩

theorem toList_text (f : Fraction) (t : Instant) : (t.text f).toList = yearText t.year ++
    ('-' :: (padded 2 (Date.ofDays (t.seconds / 86400)).month ++
    ('-' :: (padded 2 (Date.ofDays (t.seconds / 86400)).day ++
    ('T' :: (padded 2 (t.secondOfDay / 3600) ++ (':' :: (padded 2 (t.secondOfDay / 60 % 60) ++
    (':' :: (padded 2 (t.secondOfDay % 60 + t.nanos / 1000000000) ++
    (fractionText f (t.nanos % 1000000000) ++ ['Z']))))))))))) := by
  unfold text localText
  simp only [String.toList_ofList, List.append_assoc, List.cons_append]
  rfl

theorem text_millis (t : Instant) : (t.text .millis).toList = yearText t.year ++
    ('-' :: (padded 2 (Date.ofDays (t.seconds / 86400)).month ++
    ('-' :: (padded 2 (Date.ofDays (t.seconds / 86400)).day ++
    ('T' :: (padded 2 (t.secondOfDay / 3600) ++ (':' :: (padded 2 (t.secondOfDay / 60 % 60) ++
    (':' :: (padded 2 (t.secondOfDay % 60 + t.nanos / 1000000000) ++
    ('.' :: (padded 3 (t.nanos % 1000000000 / 1000000) ++ ['Z'])))))))))))) :=
  t.toList_text .millis

theorem text_millis_getLast? (t : Instant) : (t.text .millis).toList.getLast? = some 'Z' := by
  unfold text
  rw [String.toList_ofList, List.getLast?_concat]

theorem trim_text_millis (t : Instant) : trim (t.text .millis).toList = (t.text .millis).toList := by
  have hhead : ∃ c, (t.text .millis).toList.head? = some c ∧ isBlank c = false := by
    rw [text_millis]
    by_cases hy : 0 ≤ t.year ∧ t.year ≤ 9999
    · rw [yearText_of_four hy]
      obtain ⟨c, hc, hdigit⟩ := head?_padded 4 t.year.natAbs _
      exact ⟨c, hc, isBlank_of_digit hdigit⟩
    · obtain ⟨c, hc, _, hblank⟩ := yearText_of_not_four hy
      rw [hc]
      exact ⟨c, rfl, hblank⟩
  have htrim := @trim_between [] _ [] (by simp) (by simp) hhead
    ⟨'Z', t.text_millis_getLast?, by decide⟩
  rwa [List.nil_append, List.append_nil] at htrim

/-! ## Reading it back -/

theorem spells_text_millis {t : Instant} (hregular : t.Regular) (hy : t.FourDigitYear) :
    t.cut.Spells 0 (t.text .millis).toList := by
  have hzero : t.cut.ahead 0 = t.cut := by
    unfold ahead
    simp
  have hmillis : t.cut.nanos % 1000000000 = 1000000 * (t.nanos % 1000000000 / 1000000) := by
    unfold cut
    simp only
    omega
  have hleap : t.cut.nanos / 1000000000 = t.nanos / 1000000000 := by
    unfold cut
    simp only
    omega
  have hfraction := spellsFraction_millis (n := t.nanos % 1000000000 / 1000000) (by omega)
  rw [← hmillis] at hfraction
  have hspells : t.cut.Spells 0 ((t.cut.ahead 0).clockText 'T'
      (('.' :: padded 3 (t.nanos % 1000000000 / 1000000)) ++ ['Z'])) :=
    .text (regular_cut hregular) (by decide) hfraction .utc
  rw [hzero] at hspells
  unfold clockText dateText at hspells
  rw [hleap] at hspells
  rw [text_millis, yearText_of_four hy]
  exact hspells

theorem rfc3339?_written {t : Instant} (hregular : t.Regular) (hy : t.FourDigitYear) :
    rfc3339? (t.text .millis).toList = some t.cut := by
  have hyear : (t.cut.ahead 0).FourDigitYear := by
    unfold ahead cut
    simpa [FourDigitYear, year] using hy
  exact rfc3339?_of_spells hyear (spells_text_millis hregular hy)

/-! ## Years that are not read -/

theorem mark?_suffix {c : Char} {s rest : List Char} (h : mark? c s = some rest) : rest <:+ s := by
  cases s with
  | nil => cases h
  | cons d s =>
    simp only [mark?] at h
    by_cases hcd : c = d
    · rw [if_pos hcd] at h
      rw [← Option.some.inj h]
      exact List.suffix_cons d s
    · rw [if_neg hcd] at h
      cases h

theorem year?_suffix {s rest : List Char} {y : Int} (h : year? s = some (y, rest)) : rest <:+ s := by
  have hdrop : s.dropWhile isBlank <:+ s := List.dropWhile_suffix _
  unfold year? at h
  split at h
  next u hu =>
    obtain ⟨p, hp, heq⟩ := Option.map_eq_some_iff.mp h
    rw [hu] at hdrop
    rw [← (Prod.mk.inj heq).2]
    exact (digits?_suffix hp).trans ((List.suffix_cons _ u).trans hdrop)
  next u hu =>
    obtain ⟨p, hp, heq⟩ := Option.map_eq_some_iff.mp h
    rw [hu] at hdrop
    rw [← (Prod.mk.inj heq).2]
    exact (digits?_suffix hp).trans ((List.suffix_cons _ u).trans hdrop)
  next =>
    obtain ⟨p, hp, heq⟩ := Option.map_eq_some_iff.mp h
    rw [← (Prod.mk.inj heq).2]
    exact (upToDigits?_suffix hp).trans hdrop

theorem getLast?_of_bareDate? {s : List Char} {t : Instant} (h : bareDate? s = some t) :
    ∃ c, s.getLast? = some c ∧ isAsciiDigit c = true := by
  unfold bareDate? at h
  simp only [Option.bind_eq_bind, Option.bind_eq_some_iff, Prod.exists] at h
  obtain ⟨y, s₁, hy, s₂, hs₂, m, s₃, hm, s₄, hs₄, d, s₅, hd, h⟩ := h
  have hend : s₅ = [] := by
    by_cases hvalid : (⟨y, m, d⟩ : Date).isValid = true ∧ s₅ = []
    · exact hvalid.2
    · rw [if_neg hvalid] at h
      cases h
  rw [hend] at hd
  obtain ⟨c, hc, hdigit⟩ := getLast?_of_upToDigits? hd
  have h₂ : s₂ <:+ s := (mark?_suffix hs₂).trans (year?_suffix hy)
  have h₃ : s₃ <:+ s := (upToDigits?_suffix hm).trans ((List.dropWhile_suffix _).trans h₂)
  have h₄ : s₄.dropWhile isBlank <:+ s := (List.dropWhile_suffix _).trans ((mark?_suffix hs₄).trans h₃)
  obtain ⟨front, rfl⟩ := h₄
  exact ⟨c, by rw [List.getLast?_append, hc, Option.some_or], hdigit⟩

theorem bareDate?_millis (t : Instant) : bareDate? (t.text .millis).toList = none := by
  cases h : bareDate? (t.text .millis).toList with
  | none => rfl
  | some u =>
    obtain ⟨c, hc, hdigit⟩ := getLast?_of_bareDate? h
    rw [text_millis_getLast?] at hc
    rw [← Option.some.inj hc] at hdigit
    exact absurd hdigit (by decide)

theorem rfc3339?_of_not_four {t : Instant} (hy : ¬ t.FourDigitYear) :
    rfc3339? (t.text .millis).toList = none := by
  obtain ⟨c, hc, hdigit, _⟩ := yearText_of_not_four hy
  rw [text_millis, hc, List.cons_append]
  unfold rfc3339? fullDate?
  rw [fixedDigits?_of_head hdigit 3]
  rfl

theorem ofText?_millis (t : Instant) :
    ofText? (t.text .millis).toList = if t.FourDigitYear then some t.shown.cut else none := by
  unfold ofText?
  rw [trim_text_millis, bareDate?_millis, Option.or_none]
  by_cases hy : t.FourDigitYear
  · rw [if_pos hy, ← text_shown, rfc3339?_written t.regular_shown (t.fourDigitYear_shown_iff.mpr hy)]
  · rw [if_neg hy, rfc3339?_of_not_four hy]

end Instant

end TableSchema
