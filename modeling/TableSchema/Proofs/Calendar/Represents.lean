import TableSchema.Proofs.Calendar.Written

/-!
# Ways to write a moment

A moment can be written as its RFC 3339 text on any clock, as a number of milliseconds and, if it is a midnight in
UTC, as a bare date. `ofJson?_of_represents`: all of them are read as the moment.
-/

namespace TableSchema

namespace Instant

/-- The ways to write a moment, each with what the moment has to be like. Blanks around a text do not matter. -/
inductive Represents (t : Instant) : Json → Prop
  | moment {minutes : Int} {before w after : List Char} (hyear : (t.ahead minutes).FourDigitYear)
      (hw : t.Spells minutes w) (hbefore : ∀ c ∈ before, isBlank c = true)
      (hafter : ∀ c ∈ after, isBlank c = true) :
      Represents t (.string (String.ofList (before ++ (w ++ after))))
  | millis (hwhole : t.nanos % 1000000 = 0) (hleap : t.isLeap = false)
      (hkept : Date.firstYear ≤ t.year ∧ t.year ≤ Date.lastYear) : Represents t (.ofInt t.toMillis)
  | day {before after : List Char} (hmidnight : t.seconds % 86400 = 0 ∧ t.nanos = 0) (hyear : t.FourDigitYear)
      (hbefore : ∀ c ∈ before, isBlank c = true) (hafter : ∀ c ∈ after, isBlank c = true) :
      Represents t (.string (String.ofList (before ++ (t.dateText [] ++ after))))

/-! ## Ends of texts -/

theorem dateText_head (t : Instant) (rest : List Char) :
    ∃ c, (t.dateText rest).head? = some c ∧ isBlank c = false := by
  obtain ⟨c, hc, hdigit⟩ := head?_padded 4 t.year.natAbs _
  exact ⟨c, hc, isBlank_of_digit hdigit⟩

theorem padded_last (s : List Char) (width n : Nat) :
    ∃ c, (s ++ padded width n).getLast? = some c ∧ isBlank c = false := by
  obtain ⟨c, hc, hdigit⟩ := getLast?_padded s width n
  exact ⟨c, hc, isBlank_of_digit hdigit⟩

theorem hoursText_last (sign : Char) (minutes : Nat) :
    ∃ c, (sign :: hoursText minutes).getLast? = some c ∧ isBlank c = false := by
  have hlast := padded_last (sign :: (padded 2 (minutes / 60) ++ [':'])) 2 (minutes % 60)
  simpa [hoursText] using hlast

theorem offset_last {minutes : Int} {w : List Char} (hw : SpellsOffset minutes w) :
    ∃ c, w.getLast? = some c ∧ isBlank c = false := by
  cases hw with
  | utc => exact ⟨'Z', rfl, by decide⟩
  | lowerUtc => exact ⟨'z', rfl, by decide⟩
  | @ahead n h => exact hoursText_last '+' n
  | @behind n h => exact hoursText_last '-' n

theorem clockText_suffix (t : Instant) (mark : Char) (rest : List Char) : rest <:+ t.clockText mark rest := by
  unfold clockText dateText
  simp only [← List.cons_append, ← List.append_assoc]
  exact List.suffix_append _ _

theorem text_last {t : Instant} {minutes : Int} {w : List Char} (hw : t.Spells minutes w) :
    ∃ c, w.getLast? = some c ∧ isBlank c = false := by
  cases hw with
  | @text mark fraction offset _ hmark hfraction hoffset =>
    obtain ⟨c, hc, hblank⟩ := offset_last hoffset
    have hsuffix := (List.suffix_append fraction offset).trans
      ((t.ahead minutes).clockText_suffix mark (fraction ++ offset))
    obtain ⟨front, hfront⟩ := hsuffix
    exact ⟨c, by rw [← hfront, List.getLast?_append, hc, Option.some_or], hblank⟩

/-! ## Bare dates -/

theorem dropWhile_blank_padded (width n : Nat) (s : List Char) :
    (padded width n ++ s).dropWhile isBlank = padded width n ++ s := by
  obtain ⟨c, hc, hdigit⟩ := head?_padded width n s
  exact @dropWhile_blank_append [] _ (by simp) ⟨c, hc, isBlank_of_digit hdigit⟩

theorem year?_padded {y : Nat} (hy : y < 10000) (s : List Char) : year? (padded 4 y ++ s) = some ((y : Int), s) := by
  have hy4 : y < Nat.pow 10 4 := hy
  obtain ⟨c, hc, hdigit⟩ := head?_padded 4 y s
  unfold year?
  rw [dropWhile_blank_padded]
  split
  next u hu =>
    rw [hu] at hc
    rw [← Option.some.inj hc] at hdigit
    exact absurd hdigit (by decide)
  next u hu =>
    rw [hu] at hc
    rw [← Option.some.inj hc] at hdigit
    exact absurd hdigit (by decide)
  next =>
    rw [upToDigits?_padded (by decide) hy4]
    rfl

theorem bareDate?_dateText {t : Instant} (hyear : t.FourDigitYear) :
    bareDate? (t.dateText []) = some (ofDay (t.seconds / 86400)) := by
  obtain ⟨hy, hm, hd⟩ := dateText_parts hyear
  have hmark : ∀ s, mark? '-' ('-' :: s) = some s := fun s => rfl
  have hm2 : (Date.ofDays (t.seconds / 86400)).month < Nat.pow 10 2 := hm
  have hd2 : (Date.ofDays (t.seconds / 86400)).day < Nat.pow 10 2 := hd
  unfold bareDate? dateText
  rw [year?_padded hy]
  simp only [hmark, dropWhile_blank_padded, upToDigits?_padded (by decide) hm2, upToDigits?_padded (by decide) hd2,
    Option.bind_eq_bind, Option.bind_some]
  rw [date_of_fourDigitYear hyear, if_pos ⟨date_isValid hyear, trivial⟩, Date.toDays_ofDays]
  rfl

theorem rfc3339?_dateText {t : Instant} (hyear : t.FourDigitYear) : rfc3339? (t.dateText []) = none := by
  unfold rfc3339?
  rw [fullDate?_dateText hyear]
  rfl

/-! ## Milliseconds -/

theorem toMillis_lt {t : Instant} (hleap : t.isLeap = false) (hyear : t.year ≤ Date.lastYear) :
    t.toMillis < 9223372036854775808 := by
  obtain ⟨q, c, f, o, hy, hc, hf, ho, _, hhigh⟩ := Date.yearOf_parts (t.seconds / 86400)
  unfold year at hyear
  unfold isLeap at hleap
  rw [decide_eq_false_iff_not] at hleap
  unfold Date.lastYear at hyear
  unfold toMillis
  -- the day of the moment lies in its year, and the parts of the year bound the day
  have hdays : t.seconds / 86400 + 719162 < 146097 * q + 36524 * c + 1461 * f + 365 * o + 366 := by
    split at hhigh <;> omega
  omega

theorem ofMillis?_toMillis {t : Instant} (hwhole : t.nanos % 1000000 = 0) (hleap : t.isLeap = false)
    (hkept : Date.firstYear ≤ t.year ∧ t.year ≤ Date.lastYear) : ofMillis? t.toMillis = some t := by
  unfold isLeap at hleap
  rw [decide_eq_false_iff_not] at hleap
  have hseconds : t.toMillis / 1000 = t.seconds := by
    unfold toMillis
    omega
  have hnanos : (t.toMillis % 1000).toNat * 1000000 = t.nanos := by
    unfold toMillis
    omega
  unfold year at hkept
  unfold ofMillis?
  simp only
  rw [hseconds, if_pos hkept]
  exact ofParts?_eq (Or.inl (Nat.not_le.mp hleap)) rfl hnanos

/-! ## All of them are read -/

theorem ofJson?_of_represents {t : Instant} {v : Json} (h : t.Represents v) : ofJson? v = some t := by
  cases h with
  | @moment minutes before w after hyear hw hbefore hafter =>
    have hhead : ∃ c, w.head? = some c ∧ isBlank c = false := by
      cases hw with
      | text => exact dateText_head _ _
    unfold ofJson? ofText?
    simp only
    rw [String.toList_ofList, trim_between hbefore hafter hhead (text_last hw), rfc3339?_of_spells hyear hw]
    rfl
  | millis hwhole hleap hkept =>
    have hlt : t.toMillis < ((Nat.pow 2 63 : Nat) : Int) := toMillis_lt hleap hkept.2
    unfold Json.ofInt ofJson?
    simp only
    rw [if_pos hlt]
    exact ofMillis?_toMillis hwhole hleap hkept
  | @day before after hmidnight hyear hbefore hafter =>
    have hlast : ∃ c, (t.dateText []).getLast? = some c ∧ isBlank c = false := by
      have h := padded_last (padded 4 t.year.natAbs ++ ('-' :: (padded 2 (Date.ofDays (t.seconds / 86400)).month ++
        ['-']))) 2 (Date.ofDays (t.seconds / 86400)).day
      simpa [dateText] using h
    have hday : ofDay (t.seconds / 86400) = t := by
      obtain ⟨seconds, nanos, nanos_lt⟩ := t
      unfold ofDay
      rw [Instant.mk.injEq]
      simp only at hmidnight ⊢
      omega
    unfold ofJson? ofText?
    simp only
    rw [String.toList_ofList, trim_between hbefore hafter (dateText_head t []) hlast, rfc3339?_dateText hyear,
      bareDate?_dateText hyear, hday]
    rfl

end Instant

end TableSchema
