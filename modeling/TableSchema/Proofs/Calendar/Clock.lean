import TableSchema.Calendar.Reading
import TableSchema.Calendar.Writing
import TableSchema.Proofs.Calendar.Date
import TableSchema.Proofs.Number.Digits

/-!
# What clocks show

A clock that is some minutes ahead of UTC shows a date and a time of day for every moment. RFC 3339 writes them
with any number of digits for the fraction of a second and with the minutes that the clock is ahead.
`rfc3339?_of_spells`: whatever clock a moment is read from, its text is read as the moment.
-/

namespace TableSchema

namespace Instant

def year (t : Instant) : Int :=
  Date.yearOf (t.seconds / 86400)

/-- The year is one that RFC 3339 has. -/
def FourDigitYear (t : Instant) : Prop :=
  0 ≤ t.year ∧ t.year ≤ 9999

instance (t : Instant) : Decidable t.FourDigitYear :=
  inferInstanceAs (Decidable (0 ≤ t.year ∧ t.year ≤ 9999))

theorem ofParts?_eq {seconds : Int} {nanos : Nat} {t : Instant} (hregular : t.Regular)
    (hs : seconds = t.seconds) (hn : nanos = t.nanos) : ofParts? seconds nanos = some t := by
  subst hs hn
  unfold ofParts?
  rw [dif_pos ⟨t.nanos_lt, hregular⟩]

/-! ## Fractions of a second -/

/-- The decimal fraction is so many nanoseconds, to its last digit. -/
inductive SpellsFraction : Nat → List Char → Prop
  | whole : SpellsFraction 0 []
  | digits {nanos : Nat} {ds : List Char} (hne : ds ≠ []) (hdigits : ∀ c ∈ ds, isAsciiDigit c = true)
      (hvalue : Nat.pow 10 9 * spelled (ds.map digitValue) = Nat.pow 10 ds.length * nanos) :
      SpellsFraction nanos ('.' :: ds)

theorem nanosOf_of_value {ds : List Nat} (hds : ∀ d ∈ ds, d < 10) {nanos : Nat}
    (hvalue : Nat.pow 10 9 * spelled ds = Nat.pow 10 ds.length * nanos) : nanosOf ds = nanos := by
  -- nine digits are read, with zeros for those that are missing
  have hlong : spelled (ds ++ List.replicate 9 0) = Nat.pow 10 ds.length * nanos := by
    rw [spelled_append, spelled_zeros, List.length_replicate, Nat.add_zero, hvalue]
  have hsplit := spelled_append ((ds ++ List.replicate 9 0).take 9) ((ds ++ List.replicate 9 0).drop 9)
  have hlen : ((ds ++ List.replicate 9 0).drop 9).length = ds.length := by simp
  have hcut : spelled ((ds ++ List.replicate 9 0).drop 9) < Nat.pow 10 ds.length := by
    rw [← hlen]
    apply spelled_lt
    intro d hd
    rcases List.mem_append.mp (List.mem_of_mem_drop hd) with hd | hd
    · exact hds d hd
    · rw [List.eq_of_mem_replicate hd]
      decide
  rw [List.take_append_drop, hlong, hlen] at hsplit
  unfold nanosOf
  generalize spelled ((ds ++ List.replicate 9 0).take 9) = front at hsplit ⊢
  generalize spelled ((ds ++ List.replicate 9 0).drop 9) = back at hsplit hcut
  have hpos : 0 < Nat.pow 10 ds.length := Nat.pow_pos (by decide)
  -- the digits behind the ninth spell a multiple of their bound, so they are zeros
  have hback : back = 0 := by
    have hdvd : Nat.pow 10 ds.length ∣ back :=
      (Nat.dvd_add_right (Nat.dvd_mul_right _ front)).mp (hsplit ▸ Nat.dvd_mul_right _ nanos)
    exact Nat.eq_zero_of_dvd_of_lt hdvd hcut
  rw [hback, Nat.add_zero] at hsplit
  exact (Nat.eq_of_mul_eq_mul_left hpos hsplit).symm

theorem spellsFraction_padded {width n nanos : Nat} (hw : 0 < width) (hn : n < Nat.pow 10 width)
    (hvalue : Nat.pow 10 9 * n = Nat.pow 10 width * nanos) : SpellsFraction nanos ('.' :: padded width n) := by
  refine .digits (padded_ne_nil width n) (padded_digits width n) ?_
  rw [spelled_padded, length_padded hw hn]
  exact hvalue

theorem spellsFraction_millis {n : Nat} (hn : n < 1000) : SpellsFraction (1000000 * n) ('.' :: padded 3 n) :=
  spellsFraction_padded (by decide) hn (Nat.mul_assoc (Nat.pow 10 3) 1000000 n)

def EndsFraction (s : List Char) : Prop :=
  ∀ c, s.head? = some c → c ≠ '.' ∧ isAsciiDigit c = false

theorem fraction?_of_spells {nanos : Nat} {w s : List Char} (hw : SpellsFraction nanos w) (hs : EndsFraction s) :
    fraction? (w ++ s) = some (nanos, s) := by
  cases hw with
  | whole =>
    cases s with
    | nil => rfl
    | cons c s =>
      unfold fraction?
      rw [List.nil_append]
      split
      next hpoint => exact absurd (List.cons.inj hpoint).1 (hs c rfl).1
      next => rfl
  | @digits _ ds hne hdigits hvalue =>
    have hlt : ∀ d ∈ ds.map digitValue, d < 10 := by
      intro d hd
      obtain ⟨c, hc, rfl⟩ := List.mem_map.mp hd
      exact digitValue_lt (hdigits c hc)
    have hlength : (ds.map digitValue).length = ds.length := List.length_map digitValue
    rw [← hlength] at hvalue
    unfold fraction?
    rw [List.cons_append]
    simp only
    rw [digits?_append hne hdigits fun c hc => (hs c hc).2, Option.map_some, nanosOf_of_value hlt hvalue]

/-! ## Clocks ahead of UTC -/

/-- What a clock shows that is some minutes ahead of UTC. -/
def ahead (t : Instant) (minutes : Int) : Instant :=
  ⟨t.seconds + 60 * minutes, t.nanos, t.nanos_lt⟩

def hoursText (minutes : Nat) : List Char :=
  padded 2 (minutes / 60) ++ (':' :: padded 2 (minutes % 60))

inductive SpellsOffset : Int → List Char → Prop
  | utc : SpellsOffset 0 ['Z']
  | lowerUtc : SpellsOffset 0 ['z']
  | ahead {minutes : Nat} (h : minutes < 1440) : SpellsOffset minutes ('+' :: hoursText minutes)
  | behind {minutes : Nat} (h : minutes < 1440) : SpellsOffset (-minutes) ('-' :: hoursText minutes)

theorem hoursText_read {minutes : Nat} (h : minutes < 1440) :
    fixedDigits? 2 (hoursText minutes) = some (minutes / 60, ':' :: padded 2 (minutes % 60)) ∧
    fixedDigits? 2 (padded 2 (minutes % 60)) = some (minutes % 60, []) := by
  have hhours : minutes / 60 < Nat.pow 10 2 := Nat.lt_of_lt_of_le (m := 24) (by omega) (by decide)
  have hminutes : minutes % 60 < Nat.pow 10 2 := Nat.lt_of_lt_of_le (m := 60) (by omega) (by decide)
  refine ⟨fixedDigits?_padded (by decide) hhours _, ?_⟩
  have hread := fixedDigits?_padded (by decide) hminutes []
  rwa [List.append_nil] at hread

theorem offset?_of_spells {minutes : Int} {w : List Char} (hw : SpellsOffset minutes w) :
    offset? w = some (minutes, []) := by
  have hmark : ∀ s, mark? ':' (':' :: s) = some s := fun s => rfl
  cases hw with
  | utc => rfl
  | lowerUtc => rfl
  | @ahead n h =>
    have hparts : n / 60 < 24 ∧ n % 60 < 60 := by omega
    obtain ⟨hhours, hminutes⟩ := hoursText_read h
    unfold offset?
    simp only [hhours, hminutes, hmark, Option.bind_eq_bind, Option.bind_some, if_pos hparts]
    simp
    omega
  | @behind n h =>
    have hparts : n / 60 < 24 ∧ n % 60 < 60 := by omega
    obtain ⟨hhours, hminutes⟩ := hoursText_read h
    unfold offset?
    simp only [hhours, hminutes, hmark, Option.bind_eq_bind, Option.bind_some, if_pos hparts]
    simp
    omega

/-! ## Date and time of day -/

def secondOfDay (t : Instant) : Nat :=
  (t.seconds % 86400).toNat

def dateText (t : Instant) (rest : List Char) : List Char :=
  padded 4 t.year.natAbs ++
    ('-' :: (padded 2 (Date.ofDays (t.seconds / 86400)).month ++
    ('-' :: (padded 2 (Date.ofDays (t.seconds / 86400)).day ++ rest))))

def clockText (t : Instant) (mark : Char) (rest : List Char) : List Char :=
  t.dateText (mark :: (padded 2 (t.secondOfDay / 3600) ++ (':' :: (padded 2 (t.secondOfDay / 60 % 60) ++
    (':' :: (padded 2 (t.secondOfDay % 60 + t.nanos / 1000000000) ++ rest))))))

/-- The RFC 3339 texts of a moment on a clock that is some minutes ahead of UTC. They have no place for a leap
second within a minute. -/
inductive Spells (t : Instant) (minutes : Int) : List Char → Prop
  | text {mark : Char} {fraction offset : List Char} (hregular : t.Regular) (hmark : mark ∈ ['T', 't', ' '])
      (hfraction : SpellsFraction (t.nanos % 1000000000) fraction) (hoffset : SpellsOffset minutes offset) :
      Spells t minutes ((t.ahead minutes).clockText mark (fraction ++ offset))

theorem fullDate?_written {y m d : Nat} (hy : y < 10000) (hm : m < 100) (hd : d < 100) (s : List Char) :
    fullDate? (padded 4 y ++ ('-' :: (padded 2 m ++ ('-' :: (padded 2 d ++ s))))) =
      some (⟨y, m, d⟩, s) := by
  have hmark : ∀ s, mark? '-' ('-' :: s) = some s := fun s => rfl
  have hy4 : y < Nat.pow 10 4 := hy
  have hm2 : m < Nat.pow 10 2 := hm
  have hd2 : d < Nat.pow 10 2 := hd
  unfold fullDate?
  simp only [fixedDigits?_padded (by decide) hy4, fixedDigits?_padded (by decide) hm2,
    fixedDigits?_padded (by decide) hd2, hmark, Option.bind_eq_bind, Option.bind_some]
  rfl

theorem timeOfDay?_written {h m sec nanos : Nat} (hh : h < 24) (hm : m < 60) (hsec : sec ≤ 60)
    {fraction s : List Char} (hfraction : SpellsFraction nanos fraction) (hs : EndsFraction s) :
    timeOfDay? (padded 2 h ++ (':' :: (padded 2 m ++ (':' :: (padded 2 sec ++ (fraction ++ s)))))) =
      some (3600 * h + 60 * m + min sec 59, nanos + if sec = 60 then 1000000000 else 0, s) := by
  have hmark : ∀ s, mark? ':' (':' :: s) = some s := fun s => rfl
  have hh2 : h < Nat.pow 10 2 := Nat.lt_of_lt_of_le hh (by decide)
  have hm2 : m < Nat.pow 10 2 := Nat.lt_of_lt_of_le hm (by decide)
  have hsec2 : sec < Nat.pow 10 2 := Nat.lt_of_le_of_lt hsec (by decide)
  unfold timeOfDay?
  simp only [fixedDigits?_padded (by decide) hh2, fixedDigits?_padded (by decide) hm2,
    fixedDigits?_padded (by decide) hsec2, hmark, fraction?_of_spells hfraction hs, Option.bind_eq_bind,
    Option.bind_some]
  rw [if_pos ⟨hh, hm, hsec⟩]
  by_cases hleap : sec = 60
  · rw [if_pos hleap, if_pos hleap, hleap]
    rfl
  · have hmin : min sec 59 = sec := by omega
    rw [if_neg hleap, if_neg hleap, hmin]
    rfl

theorem endsFraction_of_spells {minutes : Int} {w : List Char} (hw : SpellsOffset minutes w) : EndsFraction w := by
  intro c hc
  cases hw with
  | utc => rw [← Option.some.inj hc]; decide
  | lowerUtc => rw [← Option.some.inj hc]; decide
  | ahead h => rw [← Option.some.inj hc]; decide
  | behind h => rw [← Option.some.inj hc]; decide

theorem date_of_fourDigitYear {t : Instant} (hyear : t.FourDigitYear) :
    (⟨(t.year.natAbs : Nat), (Date.ofDays (t.seconds / 86400)).month,
      (Date.ofDays (t.seconds / 86400)).day⟩ : Date) = Date.ofDays (t.seconds / 86400) := by
  have hnat : (t.year.natAbs : Int) = t.year := Int.natAbs_of_nonneg hyear.1
  rw [hnat]
  rfl

theorem date_isValid {t : Instant} (hyear : t.FourDigitYear) :
    (Date.ofDays (t.seconds / 86400)).isValid = true := by
  rw [Date.isValid_ofDays]
  unfold FourDigitYear year at hyear
  unfold Date.firstYear Date.lastYear
  omega

theorem dateText_parts {t : Instant} (hyear : t.FourDigitYear) : t.year.natAbs < 10000 ∧
    (Date.ofDays (t.seconds / 86400)).month < 100 ∧ (Date.ofDays (t.seconds / 86400)).day < 100 := by
  refine ⟨?_, Date.ofDays_two_digits _⟩
  unfold FourDigitYear at hyear
  omega

theorem fullDate?_dateText {t : Instant} (hyear : t.FourDigitYear) (s : List Char) :
    fullDate? (t.dateText s) = some (Date.ofDays (t.seconds / 86400), s) := by
  obtain ⟨hy, hm, hd⟩ := dateText_parts hyear
  unfold dateText
  rw [fullDate?_written hy hm hd, date_of_fourDigitYear hyear]

theorem rfc3339?_of_spells {t : Instant} {minutes : Int} (hyear : (t.ahead minutes).FourDigitYear) {w : List Char}
    (hw : t.Spells minutes w) : rfc3339? w = some t := by
  cases hw with
  | @text mark fraction offset hregular hmark hfraction hoffset =>
    have hdays := Date.toDays_ofDays ((t.ahead minutes).seconds / 86400)
    have hvalid := date_isValid hyear
    have hnanos := t.nanos_lt
    have hends : t.nanos < 1000000000 ∨ t.seconds % 60 = 59 := hregular
    have hsame : (t.ahead minutes).nanos = t.nanos := rfl
    have hshift : (t.ahead minutes).seconds = t.seconds + 60 * minutes := rfl
    have hsecond : ((t.ahead minutes).secondOfDay : Int) = (t.ahead minutes).seconds % 86400 := by
      unfold secondOfDay
      omega
    have hleap : (t.ahead minutes).secondOfDay % 60 + t.nanos / 1000000000 ≤ 60 := by omega
    have htime := timeOfDay?_written (h := (t.ahead minutes).secondOfDay / 3600)
      (m := (t.ahead minutes).secondOfDay / 60 % 60) (by omega) (by omega) hleap hfraction
      (endsFraction_of_spells hoffset)
    have hdateTime : isDateTimeMark mark = true := by
      rcases List.mem_cons.mp hmark with rfl | hmark
      · rfl
      · rcases List.mem_cons.mp hmark with rfl | hmark
        · rfl
        · rw [List.mem_singleton.mp hmark]
          rfl
    unfold clockText rfc3339?
    rw [fullDate?_dateText hyear]
    simp only [Option.bind_eq_bind, Option.bind_some]
    rw [if_pos hdateTime, hsame, htime]
    simp only [Option.bind_some, offset?_of_spells hoffset, hvalid, and_self, if_true]
    -- a second 60 is read as the second before it and a full second more of nanoseconds
    apply ofParts?_eq hregular
    · omega
    · by_cases hsixty : (t.ahead minutes).secondOfDay % 60 + t.nanos / 1000000000 = 60
      · rw [if_pos hsixty]
        omega
      · rw [if_neg hsixty]
        omega

end Instant

end TableSchema
