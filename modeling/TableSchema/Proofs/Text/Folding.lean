import Mathlib.Data.List.Forall2
import TableSchema.Pattern.CharClass

/-!
# Characters equal to an ASCII one up to case

Beyond ASCII, the folding table has two characters that fold to an ASCII one, the long s and the Kelvin
sign. So a class of ASCII characters closed under case has these two beyond ASCII, and no others.
-/

namespace TableSchema

/-! ## Reading the table -/

/-- What holds of the shifts of a table can be checked on its lines spelt out as characters: the kernel
takes long to decode a text, and no time to compare it with one that is spelt out. -/
theorem forall_mem_ofLines {lines : List String} {ls : List (List Char)} {P : Shift → Prop}
    (h : List.Forall₂ (fun line l => line = String.ofList l) lines ls)
    (hall : ∀ l ∈ ls, ∀ s ∈ (l.splitOn ' ').map Shift.ofText, P s) :
    ∀ s ∈ CodeMap.ofLines lines, P s := by
  intro s hs
  unfold CodeMap.ofLines at hs
  induction h with
  | nil => cases hs
  | @cons line l lines ls hl _ ih =>
    rw [List.flatMap_cons, List.mem_append] at hs
    rcases hs with hs | hs
    · rw [hl, String.toList_ofList] at hs
      exact hall l List.mem_cons_self s hs
    · exact ih (fun l hl => hall l (List.mem_cons_of_mem _ hl)) hs

theorem foldingTable_ascii : ∀ s ∈ foldingTable, 128 ≤ s.run.first ∧
    (128 ≤ s.image ∨ s = ⟨⟨0x17f, 0x17f, 1⟩, 0x73⟩ ∨ s = ⟨⟨0x212a, 0x212a, 1⟩, 0x6b⟩) := by
  apply forall_mem_ofLines
  · -- unification spells the lines out
    repeat' constructor
  · decide +kernel

/-! ## Orbits -/

/-- Beyond ASCII, or zero, which stands for a number that is no character. -/
def OffAscii (c : Char) : Prop :=
  c.toNat = 0 ∨ 128 ≤ c.toNat

def FoldsToAscii (c : Char) : Prop :=
  isAscii c = true ∨ c.toNat = 0x17f ∨ c.toNat = 0x212a

theorem offAscii_ofNat {n : Nat} (h : 128 ≤ n) : OffAscii (Char.ofNat n) := by
  by_cases hn : n.isValidChar
  · have hchar : Char.ofNat n = Char.ofNatAux n hn := dif_pos hn
    rw [hchar]
    exact Or.inr h
  · have hchar : Char.ofNat n = '\x00' := dif_neg hn
    rw [hchar]
    exact Or.inl rfl

theorem toNat_eq_of_single {n : Nat} {c : Char} (h : (Run.mk n n 1).contains c.toNat = true) : c.toNat = n := by
  simp only [Run.contains, Bool.and_eq_true, decide_eq_true_eq] at h
  omega

theorem OffAscii.isAsciiLower {c : Char} (h : OffAscii c) : isAsciiLower c = false := by
  simp only [TableSchema.isAsciiLower, Bool.and_eq_false_iff, decide_eq_false_iff_not, Char.not_le,
    Char.lt_def, UInt32.lt_iff_toNat_lt]
  rcases h with h | h
  · exact Or.inl (show c.toNat < 97 by omega)
  · exact Or.inr (show 122 < c.toNat by omega)

theorem offAscii_foldChar {c : Char} (hc : ¬ FoldsToAscii c) : OffAscii (foldChar c) := by
  simp only [FoldsToAscii, not_or, isAscii, decide_eq_true_eq, Nat.not_lt] at hc
  obtain ⟨hascii, hlong, hkelvin⟩ := hc
  have hupper : isAsciiUpper c = false := by
    simp only [isAsciiUpper, Bool.and_eq_false_iff, decide_eq_false_iff_not, Char.not_le, Char.lt_def,
      UInt32.lt_iff_toNat_lt]
    exact Or.inr (show 90 < c.toNat by omega)
  have hnot : isAscii c = false := decide_eq_false (Nat.not_lt.mpr hascii)
  unfold foldChar
  rw [hupper, hnot, if_neg Bool.false_ne_true, if_neg Bool.false_ne_true]
  cases hfind : foldingTable.find? (·.run.contains c.toNat) with
  | none =>
    simp only [CodeMap.get?, hfind]
    exact Or.inr hascii
  | some s =>
    have hrun : s.run.contains c.toNat = true := by simpa using List.find?_some hfind
    obtain ⟨_, himage⟩ := foldingTable_ascii s (List.mem_of_find?_eq_some hfind)
    simp only [CodeMap.get?, hfind, Option.map_some, Option.getD_some]
    rcases himage with himage | hs | hs
    · exact offAscii_ofNat (by omega)
    · rw [hs] at hrun
      exact absurd (toNat_eq_of_single hrun) hlong
    · rw [hs] at hrun
      exact absurd (toNat_eq_of_single hrun) hkelvin

theorem offAscii_of_mem_caseOrbit {c : Char} (hc : ¬ FoldsToAscii c) {d : Char} (hd : d ∈ caseOrbit c) :
    OffAscii d := by
  have hfold := offAscii_foldChar hc
  unfold caseOrbit at hd
  simp only [hfold.isAsciiLower, Bool.false_eq_true, if_false, List.mem_append, List.mem_singleton] at hd
  rcases hd with rfl | hd
  · exact hfold
  · split at hd
    next hascii =>
      -- only zero is left in ASCII, and nothing folds to it
      have hzero : (foldChar c).toNat = 0 := hfold.resolve_right (Nat.not_le.mpr (of_decide_eq_true hascii))
      rw [← Char.ofNat_toNat (foldChar c), hzero] at hd
      cases hd
    next =>
      obtain ⟨s, hs, hsome⟩ := List.mem_filterMap.mp hd
      obtain ⟨hfirst, _⟩ := foldingTable_ascii s hs
      simp only at hsome
      split at hsome
      next =>
        rw [← Option.some.inj hsome]
        exact offAscii_ofNat (by omega)
      next => cases hsome

theorem CharClass.foldsToAscii_of_anyCase {k : CharClass} (hk : ∀ d, k.contains d = true → ¬ OffAscii d)
    {c : Char} (hc : (CharClass.anyCase k).contains c = true) : FoldsToAscii c := by
  apply Classical.byContradiction
  intro hno
  obtain ⟨d, hd, hkd⟩ := List.any_eq_true.mp hc
  exact hk d hkd (offAscii_of_mem_caseOrbit hno hd)

end TableSchema
