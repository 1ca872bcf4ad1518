import TableSchema.Calendar.Date

/-!
# Days and dates

`toDays_ofDays`: every day has one date, which leads back to the day. `isValid_ofDays`: that date exists in
the calendar, whatever the day, so only its year can put it out of range.
-/

namespace TableSchema

namespace Date

/-! ## Years -/

section
variable {q c f o : Int} (hc : 0 ≤ c ∧ c ≤ 3) (hf : 0 ≤ f ∧ f ≤ 24) (ho : 0 ≤ o ∧ o ≤ 3)

include hc hf ho

theorem yearStart_parts : yearStart (400 * q + 100 * c + 4 * f + o + 1) =
    146097 * q + 36524 * c + 1461 * f + 365 * o - 719162 := by
  unfold yearStart
  omega

theorem isLeapYear_parts :
    isLeapYear (400 * q + 100 * c + 4 * f + o + 1) = true ↔ o = 3 ∧ (f ≠ 24 ∨ c = 3) := by
  unfold isLeapYear
  simp only [Bool.and_eq_true, Bool.or_eq_true, beq_iff_eq, bne_iff_ne]
  omega

end

/-- The year of a day in cycles of 400, 100, 4 and single years, with the days that are left. -/
theorem yearOf_parts (days : Int) : ∃ q c f o : Int, yearOf days = 400 * q + 100 * c + 4 * f + o + 1 ∧
    (0 ≤ c ∧ c ≤ 3) ∧ (0 ≤ f ∧ f ≤ 24) ∧ (0 ≤ o ∧ o ≤ 3) ∧
    0 ≤ days + 719162 - (146097 * q + 36524 * c + 1461 * f + 365 * o) ∧
    days + 719162 - (146097 * q + 36524 * c + 1461 * f + 365 * o) <
      if o = 3 ∧ (f ≠ 24 ∨ c = 3) then 366 else 365 := by
  refine ⟨_, _, _, _, rfl, ?_⟩
  have hr : 0 ≤ (days + 719162) % 146097 ∧ (days + 719162) % 146097 < 146097 := by omega
  have hn := Int.mul_ediv_add_emod (days + 719162) 146097
  generalize (days + 719162) % 146097 = r at hr hn ⊢
  generalize (days + 719162) / 146097 = q at hn ⊢
  split <;> omega

def dayOfYear (days : Int) : Nat :=
  (days - yearStart (yearOf days)).toNat

theorem yearStart_add_dayOfYear (days : Int) : yearStart (yearOf days) + dayOfYear days = days ∧
    dayOfYear days < monthStart (isLeapYear (yearOf days)) 13 := by
  obtain ⟨q, c, f, o, hy, hc, hf, ho, hlow, hhigh⟩ := yearOf_parts days
  have hstart := yearStart_parts (q := q) hc hf ho
  have hleap := isLeapYear_parts (q := q) hc hf ho
  unfold dayOfYear
  rw [hy, hstart]
  by_cases hl : o = 3 ∧ (f ≠ 24 ∨ c = 3)
  · rw [hleap.mpr hl]
    rw [if_pos hl] at hhigh
    simp only [monthStart, if_true]
    omega
  · rw [Bool.eq_false_iff.mpr (mt hleap.mp hl)]
    rw [if_neg hl] at hhigh
    simp only [monthStart, Bool.false_eq_true, if_false]
    omega

/-! ## Months -/

def monthAt (leap : Bool) (day : Nat) : Nat :=
  ((List.range 12).filter fun i => monthStart leap (i + 1) ≤ day).length

theorem lt_length_filter_range {p : Nat → Bool} (n : Nat)
    (hp : ∀ j < n, ∀ i ≤ j, p j = true → p i = true) :
    ∀ i < n, (p i = true ↔ i < ((List.range n).filter p).length) := by
  induction n with
  | zero => intro i hi; cases hi
  | succ n ih =>
    have hrest := ih fun j hj => hp j (Nat.lt_succ_of_lt hj)
    have hle : ((List.range n).filter p).length ≤ n := by
      have := List.length_filter_le p (List.range n)
      rwa [List.length_range] at this
    intro i hi
    rw [List.range_succ, List.filter_append, List.length_append]
    by_cases hn : p n = true
    · -- `p` holds of the last number, so it holds of all and nothing is left out
      have hall : ∀ j < n, j < ((List.range n).filter p).length := by
        intro j hj
        exact (hrest j hj).mp (hp n (Nat.lt_succ_self n) j (Nat.le_of_lt hj) hn)
      have hfull : ((List.range n).filter p).length = n := by
        cases n with
        | zero => omega
        | succ m => have := hall m (Nat.lt_succ_self m); omega
      have hone : ([n].filter p).length = 1 := by simp [hn]
      rw [hfull, hone]
      exact iff_of_true (hp n (Nat.lt_succ_self n) i (Nat.le_of_lt_succ hi) hn) hi
    · have hnone : ([n].filter p).length = 0 := by simp [hn]
      rw [hnone, Nat.add_zero]
      by_cases hin : i = n
      · rw [hin]
        exact iff_of_false hn (by omega)
      · exact hrest i (by omega)

theorem monthStart_mono : ∀ leap : Bool, ∀ j < 12, ∀ i ≤ j,
    monthStart leap (i + 1) ≤ monthStart leap (j + 1) := by
  decide

theorem monthAt_spec {leap : Bool} {day : Nat} (hday : day < monthStart leap 13) :
    (1 ≤ monthAt leap day ∧ monthAt leap day ≤ 12) ∧
    monthStart leap (monthAt leap day) ≤ day ∧ day < monthStart leap (monthAt leap day + 1) := by
  have hcount := lt_length_filter_range (p := fun i => decide (monthStart leap (i + 1) ≤ day)) 12 (by
    intro j hj i hij h
    have := monthStart_mono leap j hj i hij
    simp only [decide_eq_true_eq] at h ⊢
    omega)
  simp only [decide_eq_true_eq] at hcount
  have hle : monthAt leap day ≤ 12 := List.length_filter_le _ _
  have hpos : 0 < monthAt leap day := (hcount 0 (by decide)).mp (Nat.zero_le day)
  unfold monthAt at hle hpos ⊢
  generalize ((List.range 12).filter fun i => decide (monthStart leap (i + 1) ≤ day)).length = month at *
  refine ⟨⟨hpos, hle⟩, ?_, ?_⟩
  · have := (hcount (month - 1) (by omega)).mpr (by omega)
    rwa [Nat.sub_add_cancel hpos] at this
  · by_cases hlast : month = 12
    · rw [hlast]
      exact hday
    · have := mt (hcount month (by omega)).mp (Nat.lt_irrefl month)
      omega

theorem monthAt_ofDays (days : Int) :
    (1 ≤ (ofDays days).month ∧ (ofDays days).month ≤ 12) ∧
    monthStart (isLeapYear (yearOf days)) (ofDays days).month ≤ dayOfYear days ∧
    dayOfYear days < monthStart (isLeapYear (yearOf days)) ((ofDays days).month + 1) := by
  exact monthAt_spec (yearStart_add_dayOfYear days).2

/-! ## Dates -/

@[simp] theorem ofDays_year (days : Int) : (ofDays days).year = yearOf days :=
  rfl

theorem ofDays_day (days : Int) : (ofDays days).day =
    dayOfYear days - monthStart (isLeapYear (yearOf days)) (ofDays days).month + 1 :=
  rfl

theorem toDays_ofDays (days : Int) : (ofDays days).toDays = days := by
  have hdays := (yearStart_add_dayOfYear days).1
  have hmonth := (monthAt_ofDays days).2.1
  unfold toDays
  rw [ofDays_day, ofDays_year]
  omega

theorem ofDays_day_bounds (days : Int) : 1 ≤ (ofDays days).day ∧
    (ofDays days).day ≤ monthLength (isLeapYear (yearOf days)) (ofDays days).month := by
  have hmonth := (monthAt_ofDays days).2
  unfold monthLength
  rw [ofDays_day]
  omega

theorem ofDays_day_le (days : Int) : (ofDays days).day ≤ 31 := by
  have hlen : ∀ leap : Bool, ∀ month < 13, monthLength leap month ≤ 31 := by decide
  have hmonth := (monthAt_ofDays days).1
  exact Nat.le_trans (ofDays_day_bounds days).2 (hlen _ _ (by omega))

theorem ofDays_two_digits (days : Int) : (ofDays days).month < 100 ∧ (ofDays days).day < 100 := by
  have hmonth := (monthAt_ofDays days).1
  have hday := ofDays_day_le days
  omega

theorem isValid_ofDays (days : Int) : (ofDays days).isValid = true ↔
    firstYear ≤ yearOf days ∧ yearOf days ≤ lastYear := by
  have hmonth := (monthAt_ofDays days).1
  have hday := ofDays_day_bounds days
  unfold isValid
  rw [ofDays_year, decide_eq_true hmonth.1, decide_eq_true hmonth.2, decide_eq_true hday.1,
    decide_eq_true hday.2]
  simp

end Date

end TableSchema
