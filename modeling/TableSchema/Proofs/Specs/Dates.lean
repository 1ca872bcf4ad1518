import TableSchema.Proofs.Specs.Stored

/-!
# Stored date bounds

Specs store a date as text with three digits for the fraction of its last second. `ofJson?_specsJson_of_read`: in
the years that RFC 3339 has, nothing but what is less than a millisecond gets lost, and what is read back is
stored as the same text again.
-/

namespace TableSchema

namespace Instant

theorem specsJson_cut (t : Instant) : t.cut.specsJson = t.specsJson := by
  have hleap : t.cut.nanos / 1000000000 = t.nanos / 1000000000 := by
    unfold cut
    simp only
    omega
  have hmillis : t.cut.nanos % 1000000000 / 1000000 = t.nanos % 1000000000 / 1000000 := by
    unfold cut
    simp only
    omega
  unfold specsJson text localText fractionText
  simp only [hleap, hmillis]
  rfl

/-! ## Dates that lose nothing -/

theorem cut_of_ofMillis? {n : Int} {t : Instant} (h : ofMillis? n = some t) : t.cut = t := by
  rw [cut_eq_self_iff]
  unfold ofMillis? ofParts? at h
  simp only [Option.ite_none_right_eq_some, Option.dite_none_right_eq_some, Option.some.injEq] at h
  obtain ⟨_, _, rfl⟩ := h
  exact Nat.mul_mod_left _ _

theorem cut_ofDay (days : Int) : (ofDay days).cut = ofDay days :=
  (cut_eq_self_iff _).mpr rfl

theorem cut_of_bareDate? {s : List Char} {t : Instant} (h : bareDate? s = some t) : t.cut = t := by
  unfold bareDate? at h
  simp only [Option.bind_eq_bind, Option.bind_eq_some_iff, Option.pure_def, Option.ite_none_right_eq_some,
    Option.some.injEq] at h
  obtain ⟨_, _, _, _, _, _, _, _, _, _, _, rfl⟩ := h
  exact cut_ofDay _

/-- A date that was read, in a year of four digits, is stored as a text that is read as the date without what is
less than a millisecond: the second is the same, a leap second too, and storing what is read gives the text again.
A date that was given in milliseconds or without a time of day is read back as it is. -/
theorem ofJson?_specsJson_of_read {v : Json} {t : Instant} (hread : ofJson? v = some t)
    (hyear : t.FourDigitYear) :
    ∃ u, ofJson? t.specsJson = some u ∧ u.seconds = t.seconds ∧ u.nanos = t.nanos / 1000000 * 1000000 ∧
      u.specsJson = t.specsJson ∧
      ((∃ n, v = .ofInt n) ∨ (∃ s, v = .string s ∧ bareDate? (trim s.toList) = some t) → u = t) := by
  have hback : ofJson? t.specsJson = some t.cut := by
    rw [ofJson?_specsJson, if_pos hyear, shown_of_regular (regular_of_ofJson? hread)]
  refine ⟨t.cut, hback, rfl, rfl, t.specsJson_cut, ?_⟩
  intro hgiven
  rcases hgiven with ⟨n, rfl⟩ | ⟨s, _, hbare⟩
  · have hmillis : n < Nat.pow 2 63 ∧ ofMillis? n = some t := by
      simpa only [ofJson?, Json.ofInt, Option.ite_none_right_eq_some] using hread
    exact cut_of_ofMillis? hmillis.2
  · exact cut_of_bareDate? hbare

/-- A leap second before 1970, on a clock that is an hour behind, and the start of the year 0 in milliseconds. -/
theorem ofJson?_specsJson_leap_second :
    (∃ t, ofJson? (.string "1969-12-31T22:59:60.9995-01:00") = some t ∧ t.FourDigitYear ∧ t.isLeap = true ∧
      ∃ u, ofJson? t.specsJson = some u ∧ u.seconds = -1 ∧ u.nanos = 1999000000 ∧ u.specsJson = t.specsJson) ∧
    ∃ t, ofJson? (.ofInt (-62167219200000)) = some t ∧ t.FourDigitYear ∧ t.year = 0 ∧
      ofJson? t.specsJson = some t := by
  have hleap : ofJson? (.string "1969-12-31T22:59:60.9995-01:00") = some ⟨-1, 1999500000, by decide⟩ := by
    decide +kernel
  have hyear : (⟨-1, 1999500000, by decide⟩ : Instant).FourDigitYear := by decide +kernel
  have hzero : ofJson? (.ofInt (-62167219200000)) = some (ofDay (-719528)) := by decide +kernel
  have hfirst : (ofDay (-719528)).FourDigitYear := by decide +kernel
  obtain ⟨u, hu, hseconds, hnanos, htext, _⟩ := ofJson?_specsJson_of_read hleap hyear
  obtain ⟨w, hw, _, _, _, hsame⟩ := ofJson?_specsJson_of_read hzero hfirst
  refine ⟨⟨_, hleap, hyear, rfl, u, hu, hseconds, hnanos, htext⟩, _, hzero, hfirst, by decide +kernel, ?_⟩
  rw [hw, hsame (Or.inl ⟨_, rfl⟩)]

end Instant

end TableSchema
