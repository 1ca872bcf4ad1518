import TableSchema.Proofs.Pattern.Case
import TableSchema.Proofs.Rule.Domains
import TableSchema.Proofs.Url.Host
import TableSchema.Rule.Predicate

/-!
# The check of email addresses

`isAddress_iff` reads the format as a direct condition on texts: no blank, one `@` with something in front
of it, and a point inside what stands behind it. `check_email_decides`: the check of a value comes to this
condition and a look-up of the domain in the lists, and the case of ASCII letters makes no difference.
-/

namespace TableSchema

namespace Email

/-! ## The format -/

def body : Pattern :=
  .sequence [
    .plus (.char partChar), .char (.single '@'), .plus (.char partChar), .char (.single '.'),
    .plus (.char partChar)]

theorem isAddress_iff_describes (s : List Char) : isAddress s = true ↔ body.Describes s :=
  foundIn_between_ends [.plus (.char partChar), .char (.single '@'), .plus (.char partChar),
    .char (.single '.'), .plus (.char partChar)] rfl s

def Part (w : List Char) : Prop :=
  w ≠ [] ∧ ∀ c ∈ w, isBlank c = false ∧ c ≠ '@'

theorem contains_partChar (c : Char) : partChar.contains c = true ↔ isBlank c = false ∧ c ≠ '@' := by
  simp [partChar, CharClass.contains, Property.holds, ← contains_single]

theorem describes_part (w : List Char) : (Pattern.plus (.char partChar)).Describes w ↔ Part w := by
  unfold Part Pattern.plus
  rw [describes_times_char, ← List.length_pos_iff]
  simp [contains_partChar, Nat.lt_iff_add_one_le]

theorem describes_body (s : List Char) : body.Describes s ↔
    ∃ user front back, s = user ++ '@' :: (front ++ '.' :: back) ∧ Part user ∧ Part front ∧ Part back := by
  simp only [← describes_part]
  apply Iff.intro
  · intro h
    obtain ⟨user, atRest, rfl, hu, h⟩ := (describes_sequence rfl rfl _).mp h
    obtain ⟨_, rest, rfl, ⟨c, rfl, hat⟩, hrest⟩ := (describes_sequence rfl rfl _).mp h
    obtain ⟨front, pointBack, rfl, hf, hpointBack⟩ := (describes_sequence rfl rfl _).mp hrest
    obtain ⟨_, back, rfl, ⟨d, rfl, hpoint⟩, hb⟩ := (describes_sequence rfl rfl _).mp hpointBack
    rw [contains_single] at hat hpoint
    subst hat hpoint
    exact ⟨user, front, back, rfl, hu, hf, hb⟩
  · intro h
    obtain ⟨user, front, back, rfl, hu, hf, hb⟩ := h
    refine (describes_sequence rfl rfl _).mpr ⟨user, _, rfl, hu, ?_⟩
    refine (describes_sequence rfl rfl _).mpr ⟨['@'], _, rfl, ⟨'@', rfl, rfl⟩, ?_⟩
    refine (describes_sequence rfl rfl _).mpr ⟨front, _, rfl, hf, ?_⟩
    exact (describes_sequence rfl rfl _).mpr ⟨['.'], back, rfl, ⟨'.', rfl, rfl⟩, hb⟩

/-! ## Addresses -/

/-- The text is an address of the user in the domain. -/
structure Parts (s user domain : List Char) : Prop where
  whole : s = user ++ '@' :: domain
  no_blank : ∀ c ∈ s, isBlank c = false
  one_at : s.count '@' = 1
  user_ne_nil : user ≠ []
  inner_point : ∃ front back, domain = front ++ '.' :: back ∧ front ≠ [] ∧ back ≠ []

theorem Parts.at_not_mem {s user domain : List Char} (h : Parts s user domain) :
    '@' ∉ user ∧ '@' ∉ domain := by
  have hcount := h.one_at
  rw [h.whole, List.count_append, List.count_cons_self] at hcount
  refine ⟨List.count_eq_zero.mp ?_, List.count_eq_zero.mp ?_⟩ <;> omega

theorem isAddress_iff (s : List Char) : isAddress s = true ↔ ∃ user domain, Parts s user domain := by
  rw [isAddress_iff_describes, describes_body]
  apply Iff.intro
  · intro h
    obtain ⟨user, front, back, rfl, hu, hf, hb⟩ := h
    have hcount : ∀ {w}, Part w → w.count '@' = 0 :=
      fun hw => List.count_eq_zero.mpr fun hmem => (hw.2 '@' hmem).2 rfl
    refine ⟨user, front ++ '.' :: back, rfl, ?_, ?_, hu.1, front, back, rfl, hf.1, hb.1⟩
    · intro c hc
      simp only [List.mem_append, List.mem_cons] at hc
      rcases hc with hc | rfl | hc | rfl | hc
      · exact (hu.2 c hc).1
      · rfl
      · exact (hf.2 c hc).1
      · rfl
      · exact (hb.2 c hc).1
    · simp [hcount hu, hcount hf, hcount hb]
  · intro h
    obtain ⟨user, domain, h⟩ := h
    obtain ⟨hatu, hatd⟩ := h.at_not_mem
    obtain ⟨front, back, rfl, hf, hb⟩ := h.inner_point
    have hpart : ∀ {w}, w ≠ [] → (∀ c ∈ w, c ∈ s ∧ c ≠ '@') → Part w :=
      fun hne hw => ⟨hne, fun c hc => ⟨h.no_blank c (hw c hc).1, (hw c hc).2⟩⟩
    refine ⟨user, front, back, h.whole, hpart h.user_ne_nil ?_, hpart hf ?_, hpart hb ?_⟩
    all_goals
      intro c hc
      rw [h.whole]
      refine ⟨by simp [hc], ?_⟩
      rintro rfl
      simp [hc] at hatu hatd

theorem Parts.domain_eq {s user domain : List Char} (h : Parts s user domain) :
    Email.domain s = lowercase domain := by
  have hbehind : Url.behindAt s = domain := by
    rw [h.whole, ← List.singleton_append, ← List.append_assoc]
    exact Url.behindAt_append user h.at_not_mem.2
  exact congrArg lowercase hbehind

/-! ## The case of ASCII letters -/

theorem body_ignoresCase : body.AllClasses CharClass.IgnoresCase := by
  have hpart : partChar.IgnoresCase := apply_asciiLower (by decide)
  have hat : (CharClass.single '@').IgnoresCase := apply_asciiLower (by decide)
  have hpoint : (CharClass.single '.').IgnoresCase := apply_asciiLower (by decide)
  exact ⟨hpart, hat, hpart, hpoint, hpart⟩

end Email

theorem SameLetters.isAddress {s t : List Char} (h : SameLetters s t) :
    Email.isAddress s = Email.isAddress t := by
  rw [Bool.eq_iff_iff, Email.isAddress_iff_describes, Email.isAddress_iff_describes]
  exact ⟨describes_of_sameLetters rfl Email.body_ignoresCase h,
    describes_of_sameLetters rfl Email.body_ignoresCase h.symm⟩

theorem behindAt_asciiLower (s : List Char) :
    Url.behindAt (s.map asciiLower) = (Url.behindAt s).map asciiLower := by
  have hat : (· != '@') ∘ asciiLower = (· != '@') := funext (apply_asciiLower (f := (· != '@')) (by decide))
  unfold Url.behindAt
  rw [← List.map_reverse, List.takeWhile_map, hat, List.map_reverse]

theorem SameLetters.emailDomain {s t : List Char} (h : SameLetters s t) : Email.domain s = Email.domain t := by
  have hbehind : SameLetters (Url.behindAt s) (Url.behindAt t) := by
    unfold SameLetters
    rw [← behindAt_asciiLower, ← behindAt_asciiLower, show s.map asciiLower = _ from h]
  exact hbehind.lowercase

/-! ## The domain and the lists -/

namespace Email

/-- The lists let the domain pass. Their entries count in lower case, without the blanks around them. -/
def Permitted (lists : DomainSpecs) (domain : List Char) : Prop :=
  (lists.allowedDomains = [] ∨ ∃ d ∈ lists.allowedDomains, lowercase (trim d.toList) = lowercase domain) ∧
  ∀ d ∈ lists.exceptDomains, lowercase (trim d.toList) ≠ lowercase domain

theorem mem_map_normalDomain (w : List Char) (ds : List String) :
    String.ofList w ∈ ds.map (normalDomain false) ↔ ∃ d ∈ ds, lowercase (trim d.toList) = w := by
  simp [normalDomain, dropWww, String.ofList_inj]

theorem permits_normal_iff (lists : DomainSpecs) (domain : List Char) :
    (lists.normal false).permits (String.ofList (lowercase domain)) = true ↔ Permitted lists domain := by
  rw [permits_iff]
  simp only [DomainSpecs.normal, mem_map_normalDomain, ne_eq, List.map_eq_nil_iff]
  simp [Permitted, or_iff_not_imp_left]

/-- The value is an address in the domain. -/
def AddressIn (v : Json) (domain : List Char) : Prop :=
  ∃ t user, v = .string t ∧ Parts t.toList user domain

end Email

/-! ## The check of a value -/

namespace Predicate

section
variable (specs : DomainSpecs) {v : Json}

theorem check_email_empty (hv : v = .null ∨ v = .string "") :
    (ofEmailSpecs specs).check v = .require specs.mayBeEmpty .invalidEmail := by
  rcases hv with rfl | rfl <;> rfl

theorem check_email_address {domain : List Char} (hv : Email.AddressIn v domain) :
    (ofEmailSpecs specs).check v =
      .require ((specs.normal false).permits (String.ofList (lowercase domain))) .emailDomain := by
  obtain ⟨t, user, rfl, h⟩ := hv
  have hne : t ≠ "" := by
    rintro rfl
    simpa using h.whole
  have haddress : Email.isAddress t.toList = true := (Email.isAddress_iff _).mpr ⟨user, domain, h⟩
  simp only [check, ofEmailSpecs, checkText, if_neg hne, checkEmail, if_pos haddress, h.domain_eq]

theorem check_email_neither (hempty : ¬ (v = .null ∨ v = .string ""))
    (hno : ∀ domain, ¬ Email.AddressIn v domain) :
    (ofEmailSpecs specs).check v = .reject .invalidEmail := by
  cases v with
  | null => exact absurd (Or.inl rfl) hempty
  | string t =>
    have hne : t ≠ "" := by
      rintro rfl
      exact hempty (Or.inr rfl)
    have haddress : ¬ Email.isAddress t.toList = true := by
      rw [Email.isAddress_iff]
      rintro ⟨user, domain, h⟩
      exact hno domain ⟨t, user, rfl, h⟩
    simp only [check, ofEmailSpecs, checkText, if_neg hne, checkEmail, if_neg haddress]
  | _ => rfl

theorem check_email_cases (v : Json) :
    ((v = .null ∨ v = .string "") ∧
      (ofEmailSpecs specs).check v = .require specs.mayBeEmpty .invalidEmail) ∨
    (∃ domain, Email.AddressIn v domain ∧ (ofEmailSpecs specs).check v =
      .require ((specs.normal false).permits (String.ofList (lowercase domain))) .emailDomain) ∨
    (ofEmailSpecs specs).check v = .reject .invalidEmail := by
  by_cases hempty : v = .null ∨ v = .string ""
  · exact Or.inl ⟨hempty, check_email_empty specs hempty⟩
  · by_cases haddress : ∃ domain, Email.AddressIn v domain
    · obtain ⟨domain, hv⟩ := haddress
      exact Or.inr (Or.inl ⟨domain, hv, check_email_address specs hv⟩)
    · exact Or.inr (Or.inr (check_email_neither specs hempty (not_exists.mp haddress)))

theorem check_email_eq_pass_iff (v : Json) : (ofEmailSpecs specs).check v = .pass ↔
    ((v = .null ∨ v = .string "") ∧ specs.mayBeEmpty = true) ∨
      ∃ domain, Email.AddressIn v domain ∧ Email.Permitted specs domain := by
  apply Iff.intro
  · intro hpass
    rcases check_email_cases specs v with ⟨hempty, hcheck⟩ | ⟨domain, hv, hcheck⟩ | hcheck
    · rw [hcheck, Outcome.require_eq_pass_iff] at hpass
      exact Or.inl ⟨hempty, hpass⟩
    · rw [hcheck, Outcome.require_eq_pass_iff, Email.permits_normal_iff] at hpass
      exact Or.inr ⟨domain, hv, hpass⟩
    · rw [hcheck] at hpass
      cases hpass
  · rintro (⟨hempty, hmay⟩ | ⟨domain, hv, hpermitted⟩)
    · rw [check_email_empty specs hempty, Outcome.require_eq_pass_iff]
      exact hmay
    · rw [check_email_address specs hv, Outcome.require_eq_pass_iff, Email.permits_normal_iff]
      exact hpermitted

theorem check_email_eq_reject_iff (v : Json) : (ofEmailSpecs specs).check v = .reject .emailDomain ↔
    ∃ domain, Email.AddressIn v domain ∧ ¬ Email.Permitted specs domain := by
  simp only [← Email.permits_normal_iff, Bool.not_eq_true]
  apply Iff.intro
  · intro hreject
    rcases check_email_cases specs v with ⟨_, hcheck⟩ | ⟨domain, hv, hcheck⟩ | hcheck
    · rw [hcheck, Outcome.require_eq_reject_iff] at hreject
      cases hreject.2
    · rw [hcheck, Outcome.require_eq_reject_iff] at hreject
      exact ⟨domain, hv, hreject.1⟩
    · rw [hcheck] at hreject
      cases hreject
  · rintro ⟨domain, hv, hno⟩
    rw [check_email_address specs hv, Outcome.require_eq_reject_iff]
    exact ⟨hno, rfl⟩

theorem check_email_reason {v : Json} {reason : Rejection}
    (h : (ofEmailSpecs specs).check v = .reject reason) : reason = .emailDomain ∨ reason = .invalidEmail := by
  rcases check_email_cases specs v with ⟨_, hcheck⟩ | ⟨_, _, hcheck⟩ | hcheck
  · rw [hcheck, Outcome.require_eq_reject_iff] at h
    exact Or.inr h.2.symm
  · rw [hcheck, Outcome.require_eq_reject_iff] at h
    exact Or.inl h.2.symm
  · rw [hcheck] at h
    exact Or.inr (Outcome.reject.inj h).symm

theorem check_email_sameLetters {t t' : String} (h : SameLetters t.toList t'.toList) :
    (ofEmailSpecs specs).check (.string t) = (ofEmailSpecs specs).check (.string t') := by
  have hempty : t = "" ↔ t' = "" := by
    rw [← String.toList_eq_nil_iff, ← String.toList_eq_nil_iff, ← List.map_eq_nil_iff (f := asciiLower),
      show t.toList.map asciiLower = _ from h, List.map_eq_nil_iff]
  simp only [check, ofEmailSpecs, checkText, checkEmail, hempty, h.isAddress, h.emailDomain]

/-- A value passes if it is empty and may be, or an address whose domain the lists let pass. What fails for
its domain is an address that they do not, and all else that fails fails as no address. The case of ASCII
letters makes no difference, neither in the value nor in the lists. -/
theorem check_email_decides (v : Json) :
    ((ofEmailSpecs specs).check v = .pass ↔
      ((v = .null ∨ v = .string "") ∧ specs.mayBeEmpty = true) ∨
        ∃ domain, Email.AddressIn v domain ∧ Email.Permitted specs domain) ∧
    ((ofEmailSpecs specs).check v = .reject .emailDomain ↔
      ∃ domain, Email.AddressIn v domain ∧ ¬ Email.Permitted specs domain) ∧
    (∀ reason, (ofEmailSpecs specs).check v = .reject reason →
      reason = .emailDomain ∨ reason = .invalidEmail) ∧
    (∀ t t' : String, SameLetters t.toList t'.toList →
      (ofEmailSpecs specs).check (.string t) = (ofEmailSpecs specs).check (.string t')) ∧
    (∀ specs' : DomainSpecs, specs.SameEntries specs' →
      (ofEmailSpecs specs).check v = (ofEmailSpecs specs').check v) := by
  refine ⟨check_email_eq_pass_iff specs v, check_email_eq_reject_iff specs v, ?_, ?_, ?_⟩
  · intro reason
    exact check_email_reason specs
  · intro t t'
    exact check_email_sameLetters specs
  · intro specs' hentries
    unfold ofEmailSpecs
    rw [hentries.normal]

end

example : (ofEmailSpecs { allowedDomains := [" Mail.Example"] }).check (.string "user@MAIL.example") = .pass := by
  decide +kernel

end Predicate

end TableSchema
