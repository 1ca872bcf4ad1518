import TableSchema.Calendar.Reading
import TableSchema.Proofs.Calendar.Clock

/-!
# Leap seconds

Readers know leap seconds only as the second 60 of a minute (`regular_of_ofJson?`). A leap second behind any other
second is written as the second that follows, so its text does not tell it from the moment that it is `shown` as.
-/

namespace TableSchema

namespace Instant

theorem regular_ahead {t : Instant} (h : t.Regular) (minutes : Int) : (t.ahead minutes).Regular := by
  have hends : t.nanos < 1000000000 ∨ t.seconds % 60 = 59 := h
  have hahead : (t.ahead minutes).nanos < 1000000000 ∨ (t.seconds + 60 * minutes) % 60 = 59 := by
    unfold ahead
    simp only
    omega
  exact hahead

/-! ## Moments that are read -/

theorem regular_ofDay (days : Int) : (ofDay days).Regular :=
  Or.inl (Nat.zero_lt_succ _)

theorem regular_of_ofParts? {seconds : Int} {nanos : Nat} {t : Instant} (h : ofParts? seconds nanos = some t) :
    t.Regular := by
  unfold ofParts? at h
  rw [Option.dite_none_right_eq_some] at h
  obtain ⟨hparts, h⟩ := h
  rw [← Option.some.inj h]
  exact hparts.2

theorem regular_of_rfc3339? {s : List Char} {t : Instant} (h : rfc3339? s = some t) : t.Regular := by
  unfold rfc3339? at h
  simp only [Option.bind_eq_bind, Option.bind_eq_some_iff, Prod.exists] at h
  obtain ⟨date, s₁, _, h⟩ := h
  cases s₁ with
  | nil => cases h
  | cons c s₁ =>
    simp only [Option.ite_none_right_eq_some, Option.bind_eq_some_iff, Prod.exists] at h
    obtain ⟨_, second, nanos, s₂, _, offset, s₃, _, _, h⟩ := h
    exact regular_of_ofParts? h

theorem regular_of_bareDate? {s : List Char} {t : Instant} (h : bareDate? s = some t) : t.Regular := by
  unfold bareDate? at h
  simp only [Option.bind_eq_bind, Option.bind_eq_some_iff, Option.pure_def, Option.ite_none_right_eq_some,
    Option.some.injEq] at h
  obtain ⟨_, _, _, _, _, _, _, _, _, _, _, rfl⟩ := h
  exact regular_ofDay _

theorem regular_of_ofMillis? {n : Int} {t : Instant} (h : ofMillis? n = some t) : t.Regular := by
  unfold ofMillis? at h
  rw [Option.ite_none_right_eq_some] at h
  exact regular_of_ofParts? h.2

theorem regular_of_ofJson? {v : Json} {t : Instant} (h : ofJson? v = some t) : t.Regular := by
  unfold ofJson? at h
  split at h
  next s =>
    unfold ofText? at h
    rcases Option.or_eq_some_iff.mp h with hmoment | ⟨_, hday⟩
    · exact regular_of_rfc3339? hmoment
    · exact regular_of_bareDate? hday
  next n =>
    rw [Option.ite_none_right_eq_some] at h
    exact regular_of_ofMillis? h.2
  next => cases h

/-! ## Moments that are written -/

/-- What a clock shows of a moment: the moment itself, but within a minute the second after a leap second. -/
def shown (t : Instant) : Instant :=
  if t.Regular then t else ⟨t.seconds + 1, t.nanos - 1000000000, by have := t.nanos_lt; omega⟩

theorem shown_of_regular {t : Instant} (h : t.Regular) : t.shown = t :=
  if_pos h

theorem shown_of_not_regular {t : Instant} (h : ¬ t.Regular) :
    t.shown.seconds = t.seconds + 1 ∧ t.shown.nanos + 1000000000 = t.nanos ∧ t.seconds % 60 ≠ 59 := by
  have hwithin : ¬ (t.nanos < 1000000000 ∨ t.seconds % 60 = 59) := h
  unfold shown
  rw [if_neg h]
  refine ⟨rfl, ?_, ?_⟩
  · exact Nat.sub_add_cancel (by omega)
  · omega

theorem regular_shown (t : Instant) : t.shown.Regular := by
  by_cases h : t.Regular
  · rwa [shown_of_regular h]
  · have hlt := t.nanos_lt
    obtain ⟨_, hnanos, _⟩ := shown_of_not_regular h
    exact Or.inl (by omega)

theorem shown_clock (t : Instant) : t.shown.seconds / 86400 = t.seconds / 86400 ∧
    t.shown.secondOfDay / 60 = t.secondOfDay / 60 ∧
    t.shown.secondOfDay % 60 + t.shown.nanos / 1000000000 = t.secondOfDay % 60 + t.nanos / 1000000000 ∧
    t.shown.nanos % 1000000000 = t.nanos % 1000000000 := by
  by_cases h : t.Regular
  · rw [shown_of_regular h]
    exact ⟨rfl, rfl, rfl, rfl⟩
  · have hlt := t.nanos_lt
    obtain ⟨hseconds, hnanos, hwithin⟩ := shown_of_not_regular h
    unfold secondOfDay
    omega

theorem fourDigitYear_shown_iff (t : Instant) : t.shown.FourDigitYear ↔ t.FourDigitYear := by
  unfold FourDigitYear year
  rw [t.shown_clock.1]

theorem text_shown (f : Fraction) (t : Instant) : t.shown.text f = t.text f := by
  obtain ⟨hday, hminute, hsecond, hnanos⟩ := t.shown_clock
  have hhour : t.shown.secondOfDay / 3600 = t.secondOfDay / 3600 := by omega
  unfold secondOfDay at hminute hsecond hhour
  unfold text localText
  simp only [hday, hhour, hminute, hsecond, hnanos]

end Instant

end TableSchema
