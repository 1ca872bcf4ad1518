import TableSchema.Text.Blank
import TableSchema.Text.Lowercase

/-!
# The case of ASCII letters

Texts with the same letters differ at most in the case of their ASCII letters. What is asked of single
characters is checked for the 26 letters; trimming and lower case then carry over to texts.
-/

namespace TableSchema

def asciiLower (c : Char) : Char :=
  if isAsciiUpper c then Char.ofNat (c.toNat + 32) else c

/-- The texts differ at most in the case of ASCII letters. -/
def SameLetters (s t : List Char) : Prop :=
  s.map asciiLower = t.map asciiLower

/-! ## Single characters -/

theorem asciiLower_cases (c : Char) :
    asciiLower c = c ∨ ∃ n, n < 26 ∧ c = Char.ofNat (n + 65) ∧ asciiLower c = Char.ofNat (n + 97) := by
  unfold asciiLower
  split
  next h =>
    simp only [isAsciiUpper, Bool.and_eq_true, decide_eq_true_eq, Char.le_def, UInt32.le_iff_toNat_le] at h
    have hl : 65 ≤ c.toNat := h.1
    have hu : c.toNat ≤ 90 := h.2
    refine Or.inr ⟨c.toNat - 65, by omega, ?_, ?_⟩
    · rw [Nat.sub_add_cancel hl, Char.ofNat_toNat]
    · rw [show c.toNat - 65 + 97 = c.toNat + 32 by omega]
  next => exact Or.inl rfl

/-- What does not tell the 26 capitals from their small letters ignores case. -/
theorem apply_asciiLower {α : Type} {f : Char → α}
    (h : ∀ n, n < 26 → f (Char.ofNat (n + 97)) = f (Char.ofNat (n + 65))) (c : Char) :
    f (asciiLower c) = f c := by
  rcases asciiLower_cases c with hc | ⟨n, hn, hc, hl⟩
  · rw [hc]
  · rw [hl, hc]
    exact h n hn

theorem isBlank_asciiLower (c : Char) : isBlank (asciiLower c) = isBlank c :=
  apply_asciiLower (by decide) c

theorem lowerChar_asciiLower (c : Char) : lowerChar (asciiLower c) = lowerChar c :=
  apply_asciiLower (by decide) c

theorem isCased_asciiLower (c : Char) : Later.isCased (asciiLower c) = Later.isCased c :=
  apply_asciiLower (by decide) c

theorem isCaseIgnorable_asciiLower (c : Char) :
    Later.isCaseIgnorable (asciiLower c) = Later.isCaseIgnorable c :=
  apply_asciiLower (by decide) c

theorem toNat_asciiLower (c : Char) :
    ((asciiLower c).toNat = 0x3a3 ↔ c.toNat = 0x3a3) ∧ ((asciiLower c).toNat = 0x130 ↔ c.toNat = 0x130) := by
  have h := apply_asciiLower
    (f := fun c => (decide (c.toNat = 0x3a3), decide (c.toNat = 0x130))) (by decide) c
  rw [Prod.mk.injEq, decide_eq_decide, decide_eq_decide] at h
  exact h

/-! ## Texts -/

theorem trim_asciiLower (s : List Char) : trim (s.map asciiLower) = (trim s).map asciiLower := by
  have hblank : isBlank ∘ asciiLower = isBlank := funext isBlank_asciiLower
  unfold trim
  rw [List.dropWhile_map, hblank, ← List.map_reverse, List.dropWhile_map, hblank, List.map_reverse]

theorem startsCased_asciiLower (s : List Char) : startsCased (s.map asciiLower) = startsCased s := by
  have hignorable : Later.isCaseIgnorable ∘ asciiLower = Later.isCaseIgnorable :=
    funext isCaseIgnorable_asciiLower
  unfold startsCased
  rw [List.dropWhile_map, hignorable]
  cases s.dropWhile Later.isCaseIgnorable with
  | nil => rfl
  | cons c s => exact isCased_asciiLower c

theorem lowercaseAfter_asciiLower (s : List Char) : ∀ before,
    lowercaseAfter (before.map asciiLower) (s.map asciiLower) = lowercaseAfter before s := by
  -- what stands before a character is looked at as it was, not in lower case, so it changes case as well
  induction s with
  | nil => intro before; rfl
  | cons c s ih =>
    intro before
    obtain ⟨hsigma, hdot⟩ := toNat_asciiLower c
    have hrest := ih (c :: before)
    rw [List.map_cons] at hrest
    rw [List.map_cons, lowercaseAfter, lowercaseAfter, hrest]
    simp only [hsigma, hdot, startsCased_asciiLower, lowerChar_asciiLower]

theorem SameLetters.lowercase {s t : List Char} (h : SameLetters s t) : lowercase s = lowercase t := by
  unfold TableSchema.lowercase
  rw [← lowercaseAfter_asciiLower s [], ← lowercaseAfter_asciiLower t [], show s.map asciiLower = _ from h]

theorem SameLetters.trim {s t : List Char} (h : SameLetters s t) : SameLetters (trim s) (trim t) := by
  unfold SameLetters
  rw [← trim_asciiLower, ← trim_asciiLower, show s.map asciiLower = _ from h]

end TableSchema
