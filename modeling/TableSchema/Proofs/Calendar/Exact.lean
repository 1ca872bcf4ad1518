import TableSchema.Proofs.Calendar.Represents

/-!
# Exact texts of moments

The fraction of a second is written with the fewest digits that lose nothing. `text_exact_eq_iff`: the text tells
moments apart in every year and within leap seconds as far as a clock shows them apart, since each of its parts can
be read off its front.
-/

namespace TableSchema

attribute [ext] Date Instant

namespace Instant

section
variable {s rest : List Char} {digits : List Nat} (h : digits? s = some (digits, rest))

include h

theorem year?_minus : year? ('-' :: s) = some (-(spelled digits : Int), rest) := by
  have hread : year? ('-' :: s) = (digits? s).map _ := rfl
  rw [hread, h]
  rfl

theorem year?_plus : year? ('+' :: s) = some ((spelled digits : Int), rest) := by
  have hread : year? ('+' :: s) = (digits? s).map _ := rfl
  rw [hread, h]
  rfl

end

theorem year?_yearText (y : Int) {s : List Char} (hs : ∀ c, s.head? = some c → isAsciiDigit c = false) :
    year? (yearText y ++ s) = some (y, s) := by
  by_cases hfour : 0 ≤ y ∧ y ≤ 9999
  · rw [yearText_of_four hfour, year?_padded (by omega), Int.natAbs_of_nonneg hfour.1]
  · have hdigits : digits? (padded 4 y.natAbs ++ s) = some ((padded 4 y.natAbs).map digitValue, s) :=
      digits?_append (padded_ne_nil _ _) (padded_digits _ _) hs
    unfold yearText
    rw [if_neg hfour, List.cons_append]
    by_cases hneg : y < 0
    · rw [if_pos hneg, year?_minus hdigits, spelled_padded, Int.ofNat_natAbs_of_nonpos (Int.le_of_lt hneg),
        Int.neg_neg]
    · rw [if_neg hneg, year?_plus hdigits, spelled_padded, Int.natAbs_of_nonneg (Int.not_lt.mp hneg)]

theorem spellsFraction_exact {nanos : Nat} (h : nanos < 1000000000) :
    SpellsFraction nanos (fractionText .exact nanos) := by
  unfold fractionText
  simp only
  split
  next hzero =>
    rw [hzero]
    exact .whole
  split
  next hmillis =>
    have hlt : nanos / 1000000 < 1000 := by omega
    have hvalue : 1000000000 * (nanos / 1000000) = 1000 * nanos := by omega
    exact spellsFraction_padded (by decide) hlt hvalue
  split
  next hmicros =>
    have hlt : nanos / 1000 < 1000000 := by omega
    have hvalue : 1000000000 * (nanos / 1000) = 1000000 * nanos := by omega
    exact spellsFraction_padded (by decide) hlt hvalue
  next => exact spellsFraction_padded (by decide) h rfl

theorem fraction?_exact (t : Instant) :
    fraction? (fractionText .exact (t.nanos % 1000000000) ++ ['Z']) = some (t.nanos % 1000000000, ['Z']) :=
  fraction?_of_spells (spellsFraction_exact (Nat.mod_lt _ (by decide))) (endsFraction_of_spells .utc)

/-! ## Parts that are told apart -/

theorem twoDigits_inj {mark : Char} {m n : Nat} {s u : List Char} (hm : m < 100) (hn : n < 100)
    (h : mark :: (padded 2 m ++ s) = mark :: (padded 2 n ++ u)) : m = n ∧ s = u :=
  @padded_append_inj 2 m n s u (by decide) hm hn (List.cons.inj h).2

theorem clock_two_digits (t : Instant) : t.secondOfDay / 3600 < 100 ∧ t.secondOfDay / 60 % 60 < 100 ∧
    t.secondOfDay % 60 + t.nanos / 1000000000 < 100 := by
  have := t.nanos_lt
  unfold secondOfDay
  omega

/-- What a clock shows is the moment, since it shows a second 60 in regular leap seconds only. -/
theorem eq_of_parts {t u : Instant} (ht : t.Regular) (hu : u.Regular)
    (hdays : t.seconds / 86400 = u.seconds / 86400)
    (hhour : t.secondOfDay / 3600 = u.secondOfDay / 3600)
    (hminute : t.secondOfDay / 60 % 60 = u.secondOfDay / 60 % 60)
    (hsecond : t.secondOfDay % 60 + t.nanos / 1000000000 = u.secondOfDay % 60 + u.nanos / 1000000000)
    (hnanos : t.nanos % 1000000000 = u.nanos % 1000000000) : t = u := by
  have hends : t.nanos < 1000000000 ∨ t.seconds % 60 = 59 := ht
  have hends' : u.nanos < 1000000000 ∨ u.seconds % 60 = 59 := hu
  have hlt := t.nanos_lt
  have hlt' := u.nanos_lt
  unfold secondOfDay at hhour hminute hsecond
  exact Instant.ext (by omega) (by omega)

theorem text_exact_inj {t u : Instant} (ht : t.Regular) (hu : u.Regular)
    (h : t.text .exact = u.text .exact) : t = u := by
  have hmark : ∀ s : List Char, ∀ c, ('-' :: s).head? = some c → isAsciiDigit c = false := by
    intro s c hc
    rw [← Option.some.inj hc]
    decide
  have htext := congrArg String.toList h
  rw [toList_text, toList_text] at htext
  -- each part is read off the front, and the equation goes on with what is left
  have hyear := congrArg year? htext
  rw [year?_yearText _ (hmark _), year?_yearText _ (hmark _), Option.some.injEq, Prod.mk.injEq] at hyear
  obtain ⟨hyear, hrest⟩ := hyear
  obtain ⟨hmonth, hrest⟩ := twoDigits_inj (Date.ofDays_two_digits _).1 (Date.ofDays_two_digits _).1 hrest
  obtain ⟨hday, hrest⟩ := twoDigits_inj (Date.ofDays_two_digits _).2 (Date.ofDays_two_digits _).2 hrest
  obtain ⟨hhour, hrest⟩ := twoDigits_inj t.clock_two_digits.1 u.clock_two_digits.1 hrest
  obtain ⟨hminute, hrest⟩ := twoDigits_inj t.clock_two_digits.2.1 u.clock_two_digits.2.1 hrest
  obtain ⟨hsecond, hrest⟩ := twoDigits_inj t.clock_two_digits.2.2 u.clock_two_digits.2.2 hrest
  have hfraction := congrArg fraction? hrest
  rw [fraction?_exact, fraction?_exact, Option.some.injEq, Prod.mk.injEq] at hfraction
  have hdays : t.seconds / 86400 = u.seconds / 86400 := by
    rw [← Date.toDays_ofDays (t.seconds / 86400), Date.ext hyear hmonth hday, Date.toDays_ofDays]
  exact eq_of_parts ht hu hdays hhour hminute hsecond hfraction.1

theorem text_exact_eq_iff (t u : Instant) : t.text .exact = u.text .exact ↔ t.shown = u.shown := by
  rw [← t.text_shown, ← u.text_shown]
  apply Iff.intro
  · exact text_exact_inj t.regular_shown u.regular_shown
  · intro h
    rw [h]

end Instant

end TableSchema
