import TableSchema.Proofs.Pattern.Spans
import TableSchema.Proofs.Rule.Compile
import TableSchema.Proofs.Specs.Stored

/-!
# The check of patterns

The predicate of a pattern reads its source anew. `read_pattern_decides`: sources that come from specs that have
been read are patterns, so the check comes to a search for the pattern. Sources that are none reject all values.
-/

namespace TableSchema

/-- Some stretch of the text matches, whatever stands around it. -/
def Pattern.OccursIn (p : Pattern) (s : List Char) : Prop :=
  ∃ before w after, s = before ++ w ++ after ∧ p.Spans before w after

namespace Predicate

theorem check_pattern_unread {source : String} (h : Pattern.read? source = none) (v : Json) :
    (pattern source).check v = .reject .invalidPattern := by
  simp only [check, checkPattern, h]

section
variable {source : String} {p : Pattern} (h : Pattern.read? source = some p)

include h

theorem check_pattern_read (v : Json) : (pattern source).check v =
    checkText true .patternMismatch (fun s => .require (p.foundIn s) .patternMismatch) v := by
  simp only [check, checkPattern, h]

theorem check_pattern_string (t : String) : (pattern source).check (.string t) =
    .require (t = "" || p.foundIn t.toList) .patternMismatch := by
  rw [check_pattern_read h]
  unfold checkText
  by_cases hempty : t = ""
  · simp [hempty]
  · simp [hempty]

theorem check_pattern_eq_pass_iff (v : Json) : (pattern source).check v = .pass ↔
    v = .null ∨ ∃ t : String, v = .string t ∧ (t = "" ∨ p.OccursIn t.toList) := by
  cases v with
  | null => exact iff_of_true (check_pattern_read h .null) (Or.inl rfl)
  | string t =>
    rw [check_pattern_string h, Outcome.require_eq_pass_iff, Bool.or_eq_true, decide_eq_true_eq, foundIn_iff]
    simp [Pattern.OccursIn]
  | _ =>
    rw [check_pattern_read h]
    simp [checkText]

theorem check_pattern_reason (v : Json) :
    (pattern source).check v = .pass ∨ (pattern source).check v = .reject .patternMismatch := by
  cases v with
  | null => exact Or.inl (check_pattern_read h .null)
  | string t =>
    rw [check_pattern_string h]
    exact Outcome.require_cases _ _
  | _ => exact Or.inr (check_pattern_read h _)

end

theorem check_pattern_eq_invalid_iff (source : String) (v : Json) :
    (pattern source).check v = .reject .invalidPattern ↔ Pattern.read? source = none := by
  refine ⟨?_, fun h => check_pattern_unread h v⟩
  intro hreject
  cases h : Pattern.read? source with
  | none => rfl
  | some p => rcases check_pattern_reason h v with hcheck | hcheck <;> simp [hcheck] at hreject

end Predicate

/-- String specs that have been read have a predicate exactly if they have a pattern. It passes null, the empty text
and the texts in which the pattern occurs; all else does not match, and the pattern is never invalid. What makes a
predicate call its pattern invalid is a source that is none, and then it does so for every value. -/
theorem read_pattern_decides {t : FieldType} {v : Json} {s : StringSpecs}
    (hread : Specs.ofPartial t v = .ok (.string s) ∨ Specs.ofJson t v = .ok (.string s)) (o : CompileOptions) :
    ((Specs.string s).rules o).custom = s.pattern.map .pattern ∧
    (∀ source, s.pattern = some source → ∃ p, Pattern.read? source = some p ∧ ∀ w : Json,
      ((Predicate.pattern source).check w = .pass ↔
        w = .null ∨ ∃ text : String, w = .string text ∧ (text = "" ∨ p.OccursIn text.toList)) ∧
      ((Predicate.pattern source).check w = .pass ∨
        (Predicate.pattern source).check w = .reject .patternMismatch)) ∧
    (∀ (source : String) (w : Json), (Predicate.pattern source).check w = .reject .invalidPattern ↔
      Pattern.read? source = none) := by
  refine ⟨RuleSet.custom_ofRules _ _, ?_, Predicate.check_pattern_eq_invalid_iff⟩
  intro source hsource
  have hsound : (Specs.string s).Sound := hread.elim Specs.sound_of_ofPartial Specs.sound_of_ofJson
  obtain ⟨p, hp⟩ := Option.isSome_iff_exists.mp (hsound source hsource)
  refine ⟨p, hp, ?_⟩
  intro w
  exact ⟨Predicate.check_pattern_eq_pass_iff hp w, Predicate.check_pattern_reason hp w⟩

theorem read_pattern_decides_digit :
    Specs.ofPartial .string (.object [("pattern", .string "[0-9]")]) =
      .ok (.string { pattern := some "[0-9]" }) ∧
    ((Specs.string { pattern := some "[0-9]" }).rules {}).custom = some (.pattern "[0-9]") ∧
    ∃ p, Pattern.read? "[0-9]" = some p ∧ p.OccursIn "a1".toList ∧ ¬ p.OccursIn "ab".toList := by
  have hread : Specs.ofPartial .string (.object [("pattern", .string "[0-9]")]) =
      .ok (.string { pattern := some "[0-9]" }) := by decide +kernel
  obtain ⟨hcustom, hpattern, _⟩ := read_pattern_decides (Or.inl hread) {}
  obtain ⟨p, hp, hcheck⟩ := hpattern "[0-9]" rfl
  have hpass : (Predicate.pattern "[0-9]").check (.string "a1") = .pass := by decide +kernel
  have hmismatch : (Predicate.pattern "[0-9]").check (.string "ab") ≠ .pass := by decide +kernel
  rw [(hcheck _).1] at hpass
  rw [ne_eq, (hcheck _).1] at hmismatch
  exact ⟨hread, hcustom, p, hp, by simpa using hpass, by simpa using hmismatch⟩

end TableSchema
