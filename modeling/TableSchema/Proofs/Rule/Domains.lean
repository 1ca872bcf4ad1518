import Mathlib.Data.List.Forall2
import TableSchema.Proofs.Text.AsciiCase
import TableSchema.Rule.Domains

/-!
# Domain lists in normal form

Lists whose entries have the same letters have the same normal form. A domain without a capital sigma and
U+0130 is lower-cased character by character, so `www.` in front of it is what the normal form drops.
-/

namespace TableSchema

theorem permits_iff (lists : DomainSpecs) (domain : String) : lists.permits domain = true ↔
    (lists.allowedDomains ≠ [] → domain ∈ lists.allowedDomains) ∧ domain ∉ lists.exceptDomains := by
  unfold DomainSpecs.permits
  cases h : lists.allowedDomains with
  | nil => simp
  | cons d ds => simp

theorem DomainSpecs.permits_normal_iff (s : DomainSpecs) (strip : Bool) (domain : String) :
    (s.normal strip).permits domain = true ↔
      (s.allowedDomains ≠ [] → domain ∈ s.allowedDomains.map (normalDomain strip)) ∧
      domain ∉ s.exceptDomains.map (normalDomain strip) := by
  rw [permits_iff]
  simp only [DomainSpecs.normal, ne_eq, List.map_eq_nil_iff]

/-! ## Entries of the same letters -/

theorem SameLetters.normalDomain {d e : String} (h : SameLetters d.toList e.toList) (strip : Bool) :
    normalDomain strip d = normalDomain strip e := by
  unfold TableSchema.normalDomain
  rw [h.trim.lowercase]

namespace DomainSpecs

/-- The same lists up to the case of ASCII letters in their entries. -/
structure SameEntries (s t : DomainSpecs) : Prop where
  allowed : List.Forall₂ (fun d e => SameLetters d.toList e.toList) s.allowedDomains t.allowedDomains
  excepted : List.Forall₂ (fun d e => SameLetters d.toList e.toList) s.exceptDomains t.exceptDomains
  mayBeEmpty : s.mayBeEmpty = t.mayBeEmpty

theorem map_normalDomain {ds es : List String}
    (h : List.Forall₂ (fun d e => SameLetters d.toList e.toList) ds es) (strip : Bool) :
    ds.map (normalDomain strip) = es.map (normalDomain strip) := by
  induction h with
  | nil => rfl
  | cons hd _ ih => rw [List.map_cons, List.map_cons, hd.normalDomain strip, ih]

theorem SameEntries.normal {s t : DomainSpecs} (h : s.SameEntries t) (strip : Bool) :
    s.normal strip = t.normal strip := by
  unfold DomainSpecs.normal
  rw [map_normalDomain h.allowed strip, map_normalDomain h.excepted strip]
  cases s
  cases t
  simpa using h.mayBeEmpty

end DomainSpecs

/-! ## A domain behind `www.` -/

theorem lowercaseAfter_eq_map {s : List Char} (h : ∀ c ∈ s, c.toNat ≠ 0x3a3 ∧ c.toNat ≠ 0x130) :
    ∀ before, lowercaseAfter before s = s.map lowerChar := by
  induction s with
  | nil => intro before; rfl
  | cons c s ih =>
    intro before
    obtain ⟨hsigma, hdot⟩ := h c List.mem_cons_self
    rw [lowercaseAfter, ih fun d hd => h d (List.mem_cons_of_mem _ hd)]
    simp only [hsigma, hdot, if_false, List.map_cons, List.singleton_append]

theorem dropWww_www (s : List Char) : dropWww true (wwwDot ++ s) = s :=
  rfl

theorem dropWww_of_not_prefix {s : List Char} (h : ¬ wwwDot <+: s) (strip : Bool) : dropWww strip s = s := by
  unfold dropWww
  rw [if_neg]
  rw [Bool.and_eq_true, List.isPrefixOf_iff_prefix]
  intro h'
  exact h h'.2

end TableSchema
