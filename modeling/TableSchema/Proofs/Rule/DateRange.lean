import TableSchema.Proofs.Calendar.Represents
import TableSchema.Proofs.Rule.Compile

/-!
# Date ranges

The predicate of a date compares moments. `date_range_decides`: however a moment is written, it passes exactly if
it is not before the lower bound and not after the upper one, as far as there are such bounds.
-/

namespace TableSchema

/-! ## The order of moments -/

namespace Instant

/-- Earlier or the same: the second counts first, then the nanoseconds, so a leap second comes at the end of the
last second of its minute. -/
instance : LE Instant :=
  ⟨fun t u => t.seconds < u.seconds ∨ t.seconds = u.seconds ∧ t.nanos ≤ u.nanos⟩

theorem notAfter_iff (t u : Instant) : t.notAfter u = true ↔ t ≤ u := by
  have hle : t ≤ u ↔ t.seconds < u.seconds ∨ t.seconds = u.seconds ∧ t.nanos ≤ u.nanos := Iff.rfl
  rw [hle]
  unfold notAfter
  simp only [Bool.or_eq_true, Bool.and_eq_true, decide_eq_true_eq, beq_iff_eq]

end Instant

/-- Within the bounds that are set; the bounds themselves are allowed. -/
def DateSpecs.Admits (s : DateSpecs) (t : Instant) : Prop :=
  (∀ min, s.min = some min → min ≤ t) ∧ ∀ max, s.max = some max → t ≤ max

/-! ## The check -/

namespace Predicate

theorem all_notAfter_iff (min : Option Instant) (t : Instant) :
    min.all (·.notAfter t) = true ↔ ∀ m, min = some m → m ≤ t := by
  cases min with
  | none => simp
  | some m => simp [Instant.notAfter_iff]

theorem all_notBefore_iff (max : Option Instant) (t : Instant) :
    max.all t.notAfter = true ↔ ∀ m, max = some m → t ≤ m := by
  cases max with
  | none => simp
  | some m => simp [Instant.notAfter_iff]

theorem check_dateRange_of_not_read {min max : Option Instant} {v : Json} (hnull : v.isNull = false)
    (hread : Instant.ofJson? v = none) : (dateRange min max).check v = .reject .invalidDate := by
  unfold check checkDateRange
  simp only [hnull, Bool.false_eq_true, if_false, hread]

theorem check_dateRange_of_read (min max : Option Instant) {v : Json} {t : Instant}
    (hread : Instant.ofJson? v = some t) : (dateRange min max).check v =
      .require (min.all (·.notAfter t) && max.all t.notAfter) .dateOutOfRange := by
  have hnull : v.isNull = false := by
    cases v with
    | null => cases hread
    | _ => rfl
  unfold check checkDateRange
  simp only [hnull, Bool.false_eq_true, if_false, hread]

theorem check_dateRange_iff (s : DateSpecs) {v : Json} {t : Instant} (hread : Instant.ofJson? v = some t) :
    ((dateRange s.min s.max).check v = .pass ↔ s.Admits t) ∧
    ((dateRange s.min s.max).check v = .reject .dateOutOfRange ↔ ¬ s.Admits t) := by
  have hadmits : (s.min.all (·.notAfter t) && s.max.all t.notAfter) = true ↔ s.Admits t := by
    rw [Bool.and_eq_true, all_notAfter_iff, all_notBefore_iff]
    rfl
  rw [check_dateRange_of_read s.min s.max hread, ← hadmits]
  unfold Outcome.require
  cases (s.min.all (·.notAfter t) && s.max.all t.notAfter) <;> simp

end Predicate

/-! ## Compiled date specs -/

/-- Date specs with a bound have a predicate. It passes null and rejects what is no date. What represents a moment
passes if the bounds admit the moment, and otherwise is out of range; how the moment is written does not matter. -/
theorem date_range_decides {s : DateSpecs} (hbound : s.min.isSome = true ∨ s.max.isSome = true)
    (o : CompileOptions) :
    ∃ p, ((Specs.date s).rules o).custom = some p ∧ p.check .null = .pass ∧
      (∀ v : Json, v.isNull = false → Instant.ofJson? v = none → p.check v = .reject .invalidDate) ∧
      ∀ (t : Instant) (v : Json), t.Represents v →
        (p.check v = .pass ↔ s.Admits t) ∧ (p.check v = .reject .dateOutOfRange ↔ ¬ s.Admits t) := by
  refine ⟨.dateRange s.min s.max, ?_, rfl, ?_, ?_⟩
  · have hset : (s.min.isSome || s.max.isSome) = true := by
      rw [Bool.or_eq_true]
      exact hbound
    have hcustom : ((Specs.date s).rules o).custom =
        Compile.provided (s.min.isSome || s.max.isSome) (.dateRange s.min s.max) := RuleSet.custom_ofRules _ _
    rw [hcustom, hset]
    rfl
  · intro v hnull hread
    exact Predicate.check_dateRange_of_not_read hnull hread
  · intro t v hv
    exact Predicate.check_dateRange_iff s (Instant.ofJson?_of_represents hv)

def Instant.quarterSecond : Instant :=
  ⟨0, 250000000, by decide⟩

/-- A clock half an hour behind UTC shows a date before the bound for a moment that is not before it. -/
theorem date_range_decides_behind_utc :
    (some (Instant.ofDay 0)).isSome = true ∧
    Instant.quarterSecond.Represents (.string " 1969-12-31T23:30:00.25-00:30") ∧
    ∃ p, ((Specs.date { min := some (.ofDay 0) }).rules {}).custom = some p ∧
      p.check (.string " 1969-12-31T23:30:00.25-00:30") = .pass := by
  have hbound : (some (Instant.ofDay 0)).isSome = true := rfl
  have hfraction : Instant.SpellsFraction (Instant.quarterSecond.nanos % 1000000000) ['.', '2', '5'] :=
    .digits (by decide) (List.forall_mem_cons.mpr ⟨rfl, List.forall_mem_singleton.mpr rfl⟩) (by decide)
  have hspells : Instant.quarterSecond.Spells (-(30 : Nat)) _ :=
    .text (by decide) (by decide : 'T' ∈ ['T', 't', ' ']) hfraction (.behind (by decide))
  have hyear : (Instant.quarterSecond.ahead (-(30 : Nat))).FourDigitYear := by decide +kernel
  have hblank : ∀ c ∈ [' '], isBlank c = true := List.forall_mem_singleton.mpr rfl
  have hv := Instant.Represents.moment hyear hspells hblank (List.forall_mem_nil _)
  have htext : String.ofList ([' '] ++ ((Instant.quarterSecond.ahead (-(30 : Nat))).clockText 'T'
      (['.', '2', '5'] ++ ('-' :: Instant.hoursText 30)) ++ [])) = " 1969-12-31T23:30:00.25-00:30" := by
    decide +kernel
  rw [htext] at hv
  obtain ⟨p, hp, _, _, hmoments⟩ := date_range_decides (s := { min := some (.ofDay 0) }) (Or.inl hbound) {}
  refine ⟨hbound, hv, p, hp, (hmoments _ _ hv).1.mpr ⟨?_, ?_⟩⟩
  · intro min hmin
    cases hmin
    exact Or.inr ⟨rfl, by decide⟩
  · intro max hmax
    cases hmax

end TableSchema
