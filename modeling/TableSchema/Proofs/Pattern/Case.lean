import TableSchema.Proofs.Pattern.Language
import TableSchema.Proofs.Text.AsciiCase

/-!
# Patterns that ignore case

A pattern without looks whose classes take both cases of every ASCII letter or neither describes, with a
text, all texts of the same letters. Classes closed under case are such classes.
-/

namespace TableSchema

/-- The class does not tell an ASCII capital from its small letter. -/
def CharClass.IgnoresCase (k : CharClass) : Prop :=
  ∀ c, k.contains (asciiLower c) = k.contains c

theorem foldChar_asciiLower (c : Char) : foldChar (asciiLower c) = foldChar c :=
  apply_asciiLower (by decide) c

theorem CharClass.ignoresCase_anyCase (k : CharClass) : (CharClass.anyCase k).IgnoresCase := by
  intro c
  simp only [CharClass.contains, caseOrbit, foldChar_asciiLower]

/-! ## The letters of a stretch -/

theorem SameLetters.nil_left {w : List Char} (h : SameLetters [] w) : w = [] :=
  List.map_eq_nil_iff.mp h.symm

theorem SameLetters.append_left {u v w : List Char} (h : SameLetters (u ++ v) w) :
    ∃ u' v', w = u' ++ v' ∧ SameLetters u u' ∧ SameLetters v v' := by
  unfold SameLetters at h
  rw [List.map_append] at h
  obtain ⟨u', v', hw, hu, hv⟩ := List.map_eq_append_iff.mp h.symm
  exact ⟨u', v', hw, hu.symm, hv.symm⟩

theorem SameLetters.singleton_left {c : Char} {w : List Char} (h : SameLetters [c] w) :
    ∃ d, w = [d] ∧ asciiLower c = asciiLower d := by
  obtain ⟨d, hw, hd⟩ := List.map_eq_singleton_iff.mp h.symm
  exact ⟨d, hw, hd.symm⟩

theorem repeated_sameLetters {R : List Char → List Char → List Char → Prop}
    (hR : ∀ b w a b' w' a', SameLetters w w' → R b w a → R b' w' a') (n : Nat) : ∀ b w a b' w' a',
    SameLetters w w' → Repeated R n b w a → Repeated R n b' w' a' := by
  induction n with
  | zero =>
    intro b w a b' w' a' hw h
    subst h
    exact hw.nil_left
  | succ n ih =>
    intro b w a b' w' a' hw h
    obtain ⟨u, v, rfl, hu, hv⟩ := h
    obtain ⟨u', v', rfl, huu, hvv⟩ := hw.append_left
    exact ⟨u', v', rfl, hR _ _ _ _ _ _ huu hu, ih _ _ _ _ _ _ hvv hv⟩

theorem spans_sameLetters {p : Pattern} (hp : p.lookFree = true) (hcase : p.AllClasses CharClass.IgnoresCase) :
    ∀ b w a b' w' a', SameLetters w w' → p.Spans b w a → p.Spans b' w' a' := by
  -- one part of a sequence is the context of the other, so the context is left open on both sides
  induction p with
  | empty =>
    intro b w a b' w' a' hw h
    subst h
    exact hw.nil_left
  | char k =>
    intro b w a b' w' a' hw h
    obtain ⟨c, rfl, hc⟩ := h
    obtain ⟨d, rfl, hd⟩ := hw.singleton_left
    refine ⟨d, rfl, ?_⟩
    rw [← hcase d, ← hd, hcase c, hc]
  | look l => cases hp
  | seq p q ihp ihq =>
    simp only [Pattern.lookFree, Bool.and_eq_true] at hp
    intro b w a b' w' a' hw h
    obtain ⟨u, v, rfl, hu, hv⟩ := h
    obtain ⟨u', v', rfl, huu, hvv⟩ := hw.append_left
    exact ⟨u', v', rfl, ihp hp.1 hcase.1 _ _ _ _ _ _ huu hu, ihq hp.2 hcase.2 _ _ _ _ _ _ hvv hv⟩
  | alt p q ihp ihq =>
    simp only [Pattern.lookFree, Bool.and_eq_true] at hp
    intro b w a b' w' a' hw h
    rcases h with h | h
    · exact Or.inl (ihp hp.1 hcase.1 _ _ _ _ _ _ hw h)
    · exact Or.inr (ihq hp.2 hcase.2 _ _ _ _ _ _ hw h)
  | times p least most ih =>
    intro b w a b' w' a' hw h
    obtain ⟨n, hl, hm, h⟩ := h
    exact ⟨n, hl, hm, repeated_sameLetters (ih hp hcase) n _ _ _ _ _ _ hw h⟩

theorem describes_of_sameLetters {p : Pattern} (hp : p.lookFree = true)
    (hcase : p.AllClasses CharClass.IgnoresCase) {s t : List Char} (hst : SameLetters s t)
    (h : p.Describes s) : p.Describes t :=
  spans_sameLetters hp hcase [] s [] [] t [] hst h

end TableSchema
