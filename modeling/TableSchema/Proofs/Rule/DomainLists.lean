import TableSchema.Proofs.Rule.Compile
import TableSchema.Proofs.Rule.Domains

/-!
# Domain lists of compiled rules

Fields of email addresses and of URLs have the same lists, and they are compared in the same way with the domain or
the host of a text. `domain_lists_monotone`: longer block lists and shorter allow lists never let more values
through, with or without a predicate, and of the entries only the set of their normal forms matters.
-/

namespace TableSchema

def RuleSet.Admits (r : RuleSet) (v : Json) : Prop :=
  ∀ p, r.custom = some p → p.check v = .pass

theorem RuleSet.admits_iff_map (r : RuleSet) (v : Json) :
    r.Admits v ↔ ∀ outcome, r.custom.map (·.check v) = some outcome → outcome = .pass := by
  unfold RuleSet.Admits
  cases r.custom <;> simp

theorem Predicate.checkText_pass_mono {mayBeEmpty : Bool} {invalid : Rejection} {check check' : List Char → Outcome}
    (hcheck : ∀ text, check text = .pass → check' text = .pass) {v : Json}
    (hpass : checkText mayBeEmpty invalid check v = .pass) : checkText mayBeEmpty invalid check' v = .pass := by
  cases v with
  | string text =>
    simp only [checkText] at hpass ⊢
    by_cases hempty : text = ""
    · rw [if_pos hempty] at hpass ⊢
      exact hpass
    · rw [if_neg hempty] at hpass ⊢
      exact hcheck _ hpass
  | _ => exact hpass

namespace DomainSpecs

/-! ## Lists -/

theorem hasLists_iff (s : DomainSpecs) : s.hasLists = true ↔ s.allowedDomains ≠ [] ∨ s.exceptDomains ≠ [] := by
  simp [hasLists]

/-- The second specs have lists only if the first ones do, and permit every domain that these permit. -/
structure Widens (strip : Bool) (s t : DomainSpecs) : Prop where
  mayBeEmpty : s.mayBeEmpty = t.mayBeEmpty
  hasLists : t.hasLists = true → s.hasLists = true
  permits : ∀ d, (s.normal strip).permits d = true → (t.normal strip).permits d = true

section
variable (strip : Bool) (s : DomainSpecs) {names : List String}

theorem widens_of_excepted_subset (h : s.exceptDomains ⊆ names) :
    Widens strip { s with exceptDomains := names } s where
  mayBeEmpty := rfl
  hasLists := by
    rw [hasLists_iff, hasLists_iff]
    refine Or.imp_right ?_
    rintro hne rfl
    exact hne (List.subset_nil.mp h)
  permits d := by
    rw [permits_normal_iff, permits_normal_iff]
    exact And.imp_right fun hd hmem => hd (List.map_subset _ h hmem)

theorem widens_of_allowed_subset (hne : s.allowedDomains ≠ []) (h : s.allowedDomains ⊆ names) :
    Widens strip s { s with allowedDomains := names } where
  mayBeEmpty := rfl
  hasLists _ := (hasLists_iff s).mpr (Or.inl hne)
  permits d := by
    rw [permits_normal_iff, permits_normal_iff]
    exact And.imp_left fun hd _ => List.map_subset _ h (hd hne)

theorem widens_of_allowed_nil (hnil : s.allowedDomains = []) :
    Widens strip { s with allowedDomains := names } s where
  mayBeEmpty := rfl
  hasLists := by
    rw [hasLists_iff, hasLists_iff]
    exact Or.imp_left fun hne => absurd hnil hne
  permits d := by
    rw [permits_normal_iff, permits_normal_iff]
    exact And.imp_left fun _ hne => absurd hnil hne

end

/-- The entries of either list have the same normal forms, in whatever order and however often. -/
structure SameForms (strip : Bool) (s t : DomainSpecs) : Prop where
  allowed : ∀ d, d ∈ s.allowedDomains.map (normalDomain strip) ↔ d ∈ t.allowedDomains.map (normalDomain strip)
  excepted : ∀ d, d ∈ s.exceptDomains.map (normalDomain strip) ↔ d ∈ t.exceptDomains.map (normalDomain strip)
  mayBeEmpty : s.mayBeEmpty = t.mayBeEmpty

theorem ne_nil_iff_of_forms {form : String → String} {ds es : List String}
    (h : ∀ d, d ∈ ds.map form ↔ d ∈ es.map form) : ds ≠ [] ↔ es ≠ [] := by
  have hnil : ∀ names : List String, names = [] ↔ ∀ d, d ∉ names.map form := by
    intro names
    rw [← List.eq_nil_iff_forall_not_mem, List.map_eq_nil_iff]
  rw [ne_eq, ne_eq, hnil, hnil]
  simp only [h]

theorem SameForms.hasLists {strip : Bool} {s t : DomainSpecs} (h : SameForms strip s t) :
    s.hasLists = t.hasLists := by
  rw [Bool.eq_iff_iff, hasLists_iff, hasLists_iff, ne_nil_iff_of_forms h.allowed, ne_nil_iff_of_forms h.excepted]

theorem SameForms.permits {strip : Bool} {s t : DomainSpecs} (h : SameForms strip s t) :
    (s.normal strip).permits = (t.normal strip).permits := by
  funext domain
  rw [Bool.eq_iff_iff, permits_normal_iff, permits_normal_iff, ne_nil_iff_of_forms h.allowed, h.allowed, h.excepted]

end DomainSpecs

/-! ## The two kinds of fields -/

/-- The fields that have domain lists. -/
inductive DomainField where
  | email | url

namespace DomainField

def rules (o : CompileOptions) (s : DomainSpecs) : DomainField → RuleSet
  | email => (Specs.email s).rules o
  | url => (Specs.url s).rules o

def predicate (o : CompileOptions) (s : DomainSpecs) : DomainField → Predicate
  | email => .ofEmailSpecs s
  | url => .ofUrlSpecs s o.stripWwwPrefix

/-- Whether there is a predicate. An address that may be left out has one even without lists. -/
def isChecked (s : DomainSpecs) : DomainField → Bool
  | email => s.mayBeEmpty || s.hasLists
  | url => s.hasLists

def strips (o : CompileOptions) : DomainField → Bool
  | email => false
  | url => o.stripWwwPrefix

/-- What is looked up in the lists: the domain of an address, the host of a URL. -/
def compared (o : CompileOptions) (text : List Char) : DomainField → String
  | email => String.ofList (Email.domain text)
  | url => String.ofList (Url.hostOf o.stripWwwPrefix text)

def hasFormat (text : List Char) : DomainField → Bool
  | email => Email.isAddress text
  | url => Url.isUrl text

def wrongFormat : DomainField → Rejection
  | email => .invalidEmail
  | url => .invalidUrl

def wrongDomain : DomainField → Rejection
  | email => .emailDomain
  | url => .urlDomain

theorem isChecked_of_hasLists (f : DomainField) {s : DomainSpecs} (h : s.hasLists = true) :
    f.isChecked s = true := by
  cases f with
  | email => exact Bool.or_eq_true_iff.mpr (Or.inr h)
  | url => exact h

section
variable (f : DomainField) (o : CompileOptions)

theorem custom_rules (s : DomainSpecs) :
    (f.rules o s).custom = Compile.provided (f.isChecked s) (f.predicate o s) := by
  cases f with
  | email => exact RuleSet.custom_ofRules _ _
  | url => exact RuleSet.custom_ofRules _ _

theorem admits_iff (s : DomainSpecs) (v : Json) :
    (f.rules o s).Admits v ↔ (f.isChecked s = true → (f.predicate o s).check v = .pass) := by
  unfold RuleSet.Admits
  rw [custom_rules]
  cases f.isChecked s <;> simp [Compile.provided]

theorem check_predicate (s : DomainSpecs) (v : Json) : (f.predicate o s).check v =
    Predicate.checkText s.mayBeEmpty f.wrongFormat (fun text => if f.hasFormat text then
      .require ((s.normal (f.strips o)).permits (f.compared o text)) f.wrongDomain
      else .reject f.wrongFormat) v := by
  cases f with
  | email => rfl
  | url => rfl

/-! ## Wider lists -/

variable {s t : DomainSpecs} (h : DomainSpecs.Widens (f.strips o) s t)

include h

theorem isChecked_of_widens (hchecked : f.isChecked t = true) : f.isChecked s = true := by
  cases f with
  | email =>
    unfold isChecked at hchecked ⊢
    rw [Bool.or_eq_true] at hchecked ⊢
    rw [h.mayBeEmpty]
    exact hchecked.imp_right h.hasLists
  | url => exact h.hasLists hchecked

theorem check_pass_of_widens {v : Json} (hpass : (f.predicate o s).check v = .pass) :
    (f.predicate o t).check v = .pass := by
  rw [check_predicate] at hpass ⊢
  rw [← h.mayBeEmpty]
  refine Predicate.checkText_pass_mono ?_ hpass
  intro text htext
  by_cases hformat : f.hasFormat text = true
  · rw [if_pos hformat, Outcome.require_eq_pass_iff] at htext ⊢
    exact h.permits _ htext
  · rw [if_neg hformat] at htext
    cases htext

theorem admits_of_widens {v : Json} (hadmits : (f.rules o s).Admits v) : (f.rules o t).Admits v := by
  rw [admits_iff] at hadmits ⊢
  intro hchecked
  exact f.check_pass_of_widens o h (hadmits (f.isChecked_of_widens o h hchecked))

end

/-! ## The same forms -/

theorem map_check_custom_congr (f : DomainField) (o : CompileOptions) {s t : DomainSpecs}
    (h : DomainSpecs.SameForms (f.strips o) s t) (v : Json) :
    (f.rules o s).custom.map (·.check v) = (f.rules o t).custom.map (·.check v) := by
  have hchecked : f.isChecked s = f.isChecked t := by
    cases f with
    | email => exact congrArg₂ or h.mayBeEmpty h.hasLists
    | url => exact h.hasLists
  have hcheck : (f.predicate o s).check v = (f.predicate o t).check v := by
    rw [check_predicate, check_predicate, h.mayBeEmpty, h.permits]
  rw [custom_rules, custom_rules, hchecked]
  cases f.isChecked t with
  | false => rfl
  | true => exact congrArg some hcheck

theorem admits_congr (f : DomainField) (o : CompileOptions) {s t : DomainSpecs}
    (h : DomainSpecs.SameForms (f.strips o) s t) (v : Json) :
    (f.rules o s).Admits v ↔ (f.rules o t).Admits v := by
  rw [RuleSet.admits_iff_map, RuleSet.admits_iff_map, f.map_check_custom_congr o h]

/-! ## Entries of the block list -/

theorem not_admits_of_excepted (f : DomainField) (o : CompileOptions) (s : DomainSpecs) {text : String}
    (hne : text ≠ "")
    (hmem : f.compared o text.toList ∈ s.exceptDomains.map (normalDomain (f.strips o))) :
    ¬ (f.rules o s).Admits (.string text) := by
  have hlists : s.hasLists = true := by
    rw [DomainSpecs.hasLists_iff]
    right
    intro hnil
    rw [hnil] at hmem
    cases hmem
  rw [admits_iff]
  intro h
  have hpass := h (f.isChecked_of_hasLists hlists)
  rw [check_predicate] at hpass
  simp only [Predicate.checkText, if_neg hne] at hpass
  split at hpass
  · rw [Outcome.require_eq_pass_iff, DomainSpecs.permits_normal_iff] at hpass
    exact hpass.2 hmem
  · cases hpass

/-- Whatever the rest of the specs is, more entries in the block list let no more values through, and neither do
first entries in the allow list. Further entries in the allow list keep no value out. Lists whose entries have the
same normal forms let the same values through, and give the same reasons for what they keep out. A text whose domain
or host has the normal form of an entry of the block list is kept out, even if it is allowed as well. -/
theorem domain_lists_monotone (f : DomainField) (o : CompileOptions) (s : DomainSpecs) (v : Json) :
    (∀ names, s.exceptDomains ⊆ names →
      ¬ (f.rules o s).Admits v → ¬ (f.rules o { s with exceptDomains := names }).Admits v) ∧
    (∀ names, s.allowedDomains ≠ [] → s.allowedDomains ⊆ names →
      (f.rules o s).Admits v → (f.rules o { s with allowedDomains := names }).Admits v) ∧
    (∀ names, s.allowedDomains = [] →
      ¬ (f.rules o s).Admits v → ¬ (f.rules o { s with allowedDomains := names }).Admits v) ∧
    (∀ t, DomainSpecs.SameForms (f.strips o) s t →
      ((f.rules o s).Admits v ↔ (f.rules o t).Admits v) ∧
      (f.rules o s).custom.map (·.check v) = (f.rules o t).custom.map (·.check v)) ∧
    ∀ text : String, v = .string text → text ≠ "" →
      f.compared o text.toList ∈ s.exceptDomains.map (normalDomain (f.strips o)) →
      ¬ (f.rules o s).Admits v := by
  refine ⟨?_, ?_, ?_, ?_, ?_⟩
  · intro names hnames
    exact mt (f.admits_of_widens o (s.widens_of_excepted_subset _ hnames))
  · intro names hne hnames
    exact f.admits_of_widens o (s.widens_of_allowed_subset _ hne hnames)
  · intro names hnil
    exact mt (f.admits_of_widens o (s.widens_of_allowed_nil _ hnil))
  · intro t h
    exact ⟨f.admits_congr o h v, f.map_check_custom_congr o h v⟩
  · rintro text rfl hne hmem
    exact f.not_admits_of_excepted o s hne hmem

end DomainField

end TableSchema
