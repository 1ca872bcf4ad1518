import TableSchema.Proofs.Json.Recognition
import TableSchema.Proofs.Number.Value
import TableSchema.Proofs.Rule.Compile
import TableSchema.Rule.Predicate

/-!
# The check of JSON text

`check_json_iff`: without a size limit, what passes is blank text and the text of the JSON grammar, and
nothing else. `json_size_enforced`: a limit is kept to the byte, whatever double it is, and is all that is added
to this.
-/

namespace TableSchema

namespace Predicate

theorem checkJson_string (s : String) : checkJson none (.string s) =
    .require (s.toList.all isBlank || (Document.read? s.toList).isSome) .invalidJson := by
  simp only [checkJson, Option.any_none]
  cases s.toList.all isBlank with
  | true => rfl
  | false => rfl

/-- A text passes if all of it is blank or it is JSON text. Any other text, and any value that is no text,
is rejected as invalid. -/
theorem check_json_iff (v : Json) :
    ((json none).check v = .pass ↔
      ∃ s : String, v = .string s ∧ ((∀ c ∈ s.toList, isBlank c = true) ∨ JsonText.Text s.toList)) ∧
    ((json none).check v = .pass ∨ (json none).check v = .reject .invalidJson) := by
  cases v with
  | string s =>
    have hcheck : (json none).check (.string s) = _ := checkJson_string s
    rw [hcheck]
    refine ⟨?_, ?_⟩
    · rw [Outcome.require_eq_pass_iff, Bool.or_eq_true, List.all_eq_true, JsonText.read?_isSome_iff]
      simp
    · unfold Outcome.require
      split
      · exact Or.inl rfl
      · exact Or.inr rfl
  | _ => exact ⟨by simp [check, checkJson], Or.inr rfl⟩

/-! ## Size limits -/

theorem check_json_unlimited_ne (t : String) : (json none).check (.string t) ≠ .reject .jsonTooLarge := by
  have hcheck : (json none).check (.string t) = _ := checkJson_string t
  rw [hcheck, ne_eq, Outcome.require_eq_reject_iff]
  intro h
  cases h.2

section
variable (limit : Nat) (t : String)

theorem check_json_limited : (¬ (∀ c ∈ t.toList, isBlank c = true) ∧ limit < t.utf8ByteSize ∧
      (json (some limit)).check (.string t) = .reject .jsonTooLarge) ∨
    (¬ (¬ (∀ c ∈ t.toList, isBlank c = true) ∧ limit < t.utf8ByteSize) ∧
      (json (some limit)).check (.string t) = (json none).check (.string t)) := by
  simp only [check, checkJson, Option.any_some, Option.any_none, decide_eq_true_eq]
  rw [← List.all_eq_true]
  by_cases hblank : t.toList.all isBlank = true
  · exact Or.inr ⟨fun h => h.1 hblank, by rw [if_pos hblank, if_pos hblank]⟩
  · by_cases hsize : limit < t.utf8ByteSize
    · exact Or.inl ⟨hblank, hsize, by rw [if_neg hblank, if_pos hsize]⟩
    · exact Or.inr ⟨fun h => hsize h.2, by simp [hsize]⟩

theorem check_json_tooLarge_iff : (json (some limit)).check (.string t) = .reject .jsonTooLarge ↔
    (¬ ∀ c ∈ t.toList, isBlank c = true) ∧ limit < t.utf8ByteSize := by
  rcases check_json_limited limit t with ⟨hblank, hsize, hcheck⟩ | ⟨hwithin, hcheck⟩
  · exact iff_of_true hcheck ⟨hblank, hsize⟩
  · rw [hcheck]
    exact iff_of_false (check_json_unlimited_ne t) hwithin

theorem check_json_of_ne_tooLarge (h : (json (some limit)).check (.string t) ≠ .reject .jsonTooLarge) :
    (json (some limit)).check (.string t) = (json none).check (.string t) := by
  rcases check_json_limited limit t with ⟨_, _, hcheck⟩ | ⟨_, hcheck⟩
  · exact absurd hcheck h
  · exact hcheck

end

end Predicate

theorem utf8ByteSize_pos {t : String} (h : ¬ ∀ c ∈ t.toList, isBlank c = true) : 0 < t.utf8ByteSize := by
  refine Nat.pos_of_ne_zero ?_
  intro hempty
  rw [String.utf8ByteSize_eq_zero_iff] at hempty
  simp [hempty] at h

namespace Compile

theorem byteLimit_lt_iff (maxSize : Double) {n : Nat} (hn : 0 < n) (hcount : n < Nat.pow 2 64) :
    byteLimit maxSize < n ↔ maxSize.value < n := by
  rw [← maxSize.floorNat_lt_iff hn]
  unfold byteLimit
  generalize Nat.pow 2 64 = bound at hcount ⊢
  omega

end Compile

/-- If the limit of JSON specs is enforced, a text is too large exactly if it is not blank and has more bytes than
the limit, to the last fraction, and any other text is checked as without a limit. This is said of all sizes that
64 bits can count. If the limit is not enforced, there is none in the predicate. -/
theorem json_size_enforced (o : CompileOptions) (s : JsonSpecs) :
    ∃ p, ((Specs.json s).rules o).custom = some p ∧
      (o.enforceJsonMaxSize = true → ∀ t : String, t.utf8ByteSize < Nat.pow 2 64 →
        (p.check (.string t) = .reject .jsonTooLarge ↔
          (¬ ∀ c ∈ t.toList, isBlank c = true) ∧ s.maxSize.value < t.utf8ByteSize) ∧
        (p.check (.string t) ≠ .reject .jsonTooLarge →
          p.check (.string t) = (Predicate.json none).check (.string t))) ∧
      (o.enforceJsonMaxSize = false → p = .json none) := by
  have hcustom : ((Specs.json s).rules o).custom =
      some (.json (Compile.provided o.enforceJsonMaxSize (Compile.byteLimit s.maxSize))) :=
    RuleSet.custom_ofRules _ _
  refine ⟨_, hcustom, ?enforced, ?free⟩
  case enforced =>
    intro hset t hcount
    rw [hset]
    refine ⟨?_, Predicate.check_json_of_ne_tooLarge _ t⟩
    refine (Predicate.check_json_tooLarge_iff _ t).trans (and_congr_right ?_)
    intro hblank
    exact Compile.byteLimit_lt_iff s.maxSize (utf8ByteSize_pos hblank) hcount
  case free =>
    intro hset
    rw [hset]
    rfl

example : (Predicate.json (some (Compile.byteLimit ⟨false, 5, -1⟩))).check (.string "[1]") =
    .reject .jsonTooLarge := by
  decide

end TableSchema
