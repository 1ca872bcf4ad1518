import TableSchema.Proofs.Url.Letters
import TableSchema.Proofs.Url.Lists

/-!
# URLs with a scheme

An `Address` is a URL put together from a scheme, a host and optional parts. `only_host_matters`: the check
of its text comes to the check of the bare host, and that to a look-up of the host in the lists.
-/

namespace TableSchema

namespace Url

/-! ## Addresses -/

/-- The parts of a URL with a scheme, without their delimiters. User, port and tail may be missing. -/
structure Address where
  scheme : List Char
  user : Option (List Char)
  host : List Char
  portNumber : Option (List Char)
  tail : List Char
  scheme_describes : Url.scheme.Describes (scheme ++ [':', '/', '/'])
  user_fits : ∀ u, user = some u →
    u ≠ [] ∧ ∀ c ∈ u, isBlank c = false ∧ c ≠ '@' ∧ endsAuthority c = false
  host_describes : Url.host.Describes host
  portNumber_fits : ∀ n, portNumber = some n →
    1 ≤ n.length ∧ n.length ≤ 5 ∧ ∀ c ∈ n, isDecimalDigit c = true
  tail_begins : ∀ c, tail.head? = some c → endsAuthority c = true
  tail_fits : ∀ c ∈ tail, isBlank c = false

namespace Address

variable (a : Address)

def userPart : List Char :=
  match a.user with
  | some u => u ++ ['@']
  | none => []

def portPart : List Char :=
  match a.portNumber with
  | some n => ':' :: n
  | none => []

def text : List Char :=
  (a.scheme ++ [':', '/', '/']) ++ (a.userPart ++ (a.host ++ (a.portPart ++ a.tail)))

theorem describes_userPart : (Pattern.opt Url.user).Describes a.userPart := by
  rw [describes_opt]
  unfold userPart
  cases h : a.user with
  | none => exact Or.inl rfl
  | some u =>
    obtain ⟨hne, hall⟩ := a.user_fits u h
    refine Or.inr ((describes_sequence rfl rfl _).mpr ⟨u, ['@'], rfl, ?_, (describes_text _ _).mpr rfl⟩)
    refine (describes_times_char userChar 1 none u).mpr ⟨List.length_pos_iff.mpr hne, by simp, ?_⟩
    intro c hc
    obtain ⟨hblank, hat, hends⟩ := hall c hc
    have hslash : c ≠ '/' := by
      intro e
      rw [e] at hends
      cases hends
    have hchars : (CharClass.ofChars ['/', '@']).contains c = false := by
      rw [← Bool.not_eq_true]
      intro h
      simp only [CharClass.ofChars, List.foldr, CharClass.contains, contains_single, Bool.or_eq_true,
        Bool.false_eq_true, or_false] at h
      exact h.elim hslash hat
    simp [userChar, CharClass.contains, Property.holds, hblank, hchars]

theorem describes_portPart : (Pattern.opt Url.portNumber).Describes a.portPart := by
  rw [describes_opt]
  unfold portPart
  cases h : a.portNumber with
  | none => exact Or.inl rfl
  | some n =>
    obtain ⟨hleast, hmost, hall⟩ := a.portNumber_fits n h
    refine Or.inr ((describes_sequence rfl rfl _).mpr ⟨[':'], n, rfl, (describes_text _ _).mpr rfl, ?_⟩)
    refine (describes_times_char _ 1 (some 5) n).mpr ⟨hleast, ?_, hall⟩
    intro m hm
    cases hm
    exact hmost

theorem describes_tail : (Pattern.opt Url.tail).Describes a.tail := by
  rw [describes_opt]
  cases h : a.tail with
  | nil => exact Or.inl rfl
  | cons c t =>
    have hc : (CharClass.ofChars ['/', '?', '#']).contains c = true := by
      have hends := a.tail_begins c (by rw [h]; rfl)
      simp only [endsAuthority, Bool.or_eq_true, beq_iff_eq] at hends
      rcases hends with (rfl | rfl) | rfl <;> decide
    refine Or.inr ((describes_sequence rfl rfl _).mpr ⟨[c], t, rfl, ⟨c, rfl, hc⟩, ?_⟩)
    refine (describes_times_char _ 0 none t).mpr ⟨Nat.zero_le _, by simp, ?_⟩
    intro d hd
    have hblank := a.tail_fits d (by rw [h]; exact List.mem_cons_of_mem _ hd)
    simp [CharClass.contains, Property.holds, hblank]

/-! ## What is compared -/

def reading : Reading a.text where
  scheme := a.scheme ++ [':', '/', '/']
  user := a.userPart
  host := a.host
  portNumber := a.portPart
  tail := a.tail
  whole := rfl
  scheme_describes := (describes_opt _).mpr (Or.inr a.scheme_describes)
  user_describes := a.describes_userPart
  host_describes := a.host_describes
  portNumber_describes := a.describes_portPart
  tail_describes := a.describes_tail

theorem plain_reading : a.reading.Plain where
  user := by
    intro c hc
    change c ∈ a.userPart at hc
    unfold userPart at hc
    cases h : a.user with
    | none =>
      rw [h] at hc
      cases hc
    | some u =>
      rw [h] at hc
      rcases List.mem_append.mp hc with hc | hc
      · exact ((a.user_fits u h).2 c hc).2.2
      · rw [List.mem_singleton.mp hc]
        decide
  tail := by
    intro h
    have hne : a.scheme ++ [':', '/', '/'] ≠ [] := by simp
    exact absurd h hne

end Address

def Reading.ofHost {host : List Char} (h : Url.host.Describes host) : Reading host where
  scheme := []
  user := []
  host := host
  portNumber := []
  tail := []
  whole := by simp
  scheme_describes := (describes_opt _).mpr (Or.inl rfl)
  user_describes := (describes_opt _).mpr (Or.inl rfl)
  host_describes := h
  portNumber_describes := (describes_opt _).mpr (Or.inl rfl)
  tail_describes := (describes_opt _).mpr (Or.inl rfl)

theorem Reading.plain_ofHost {host : List Char} (h : Url.host.Describes host) : (Reading.ofHost h).Plain where
  user := by
    intro c hc
    cases hc
  tail := by
    intro _ hin
    cases List.infix_nil.mp hin

def outcome (s : DomainSpecs) (strip : Bool) (t : List Char) : Outcome :=
  (Predicate.ofUrlSpecs s strip).check (.string (String.ofList t))

theorem outcome_of_plain (s : DomainSpecs) (strip : Bool) {t : List Char} (r : Reading t) (h : r.Plain) :
    outcome s strip t =
      .require ((s.normal strip).permits (String.ofList (hostForm strip r.host))) .urlDomain := by
  have hurl : isUrl (String.ofList t).toList = true := by
    rw [String.toList_ofList]
    exact (isUrl_iff t).mpr ⟨r⟩
  unfold outcome Predicate.ofUrlSpecs
  rw [check_url _ strip hurl, String.toList_ofList, r.hostOf_eq_cut, r.cut_of_plain h]

namespace Address

variable (s : DomainSpecs) (strip : Bool) (a : Address)

theorem outcome_text : outcome s strip a.text =
    .require ((s.normal strip).permits (String.ofList (hostForm strip a.host))) .urlDomain :=
  outcome_of_plain s strip a.reading a.plain_reading

def onHost {host : List Char} (h : Url.host.Describes host) : Address :=
  { a with host := host, host_describes := h }

theorem outcome_onHost {host : List Char} (h : Url.host.Describes host)
    (hform : hostForm strip host = hostForm strip a.host) :
    outcome s strip (a.onHost h).text = outcome s strip a.text := by
  rw [outcome_text, outcome_text, show (a.onHost h).host = host from rfl, hform]

/-- The text of an address has the outcome of its bare host, and passes exactly if the lists let the host
pass. The case of ASCII letters makes no difference, neither in the host nor in the lists. With `strip`, no
more does `www.` in front of a host that does not begin with it in any case. -/
theorem only_host_matters :
    outcome s strip a.text = outcome s strip a.host ∧
    (outcome s strip a.text = .pass ↔
      (s.allowedDomains = [] ∨
        String.ofList (hostForm strip a.host) ∈ s.allowedDomains.map (normalDomain strip)) ∧
      String.ofList (hostForm strip a.host) ∉ s.exceptDomains.map (normalDomain strip)) ∧
    (∀ t : DomainSpecs, s.SameEntries t → outcome t strip a.text = outcome s strip a.text) ∧
    (∀ host, SameLetters a.host host →
      ∃ h : Url.host.Describes host, outcome s strip (a.onHost h).text = outcome s strip a.text) ∧
    (strip = true → ¬ wwwDot <+: lowercase a.host →
      ∃ h : Url.host.Describes (wwwDot ++ a.host),
        outcome s strip (a.onHost h).text = outcome s strip a.text) := by
  refine ⟨?bare, ?lists, ?entries, ?letters, ?www⟩
  case bare =>
    rw [outcome_text, outcome_of_plain s strip _ (Reading.plain_ofHost a.host_describes)]
    rfl
  case lists =>
    rw [outcome_text, Outcome.require_eq_pass_iff, permits_iff, or_iff_not_imp_left]
    simp only [DomainSpecs.normal, ne_eq, List.map_eq_nil_iff]
  case entries =>
    intro t ht
    rw [outcome_text, outcome_text, ht.normal]
  case letters =>
    intro host hletters
    have hhost := describes_host_of_sameLetters hletters a.host_describes
    exact ⟨hhost, a.outcome_onHost s strip hhost (hostForm_of_sameLetters hletters strip).symm⟩
  case www =>
    intro hstrip hno
    subst hstrip
    have hhost := describes_www_append a.host_describes
    exact ⟨hhost, a.outcome_onHost s true hhost (hostForm_www a.host_describes hno)⟩

/-- The address `https://u:p@A.example:8080/b?c=d://e@f.example`, with delimiters in user and tail. -/
def sample : Address where
  scheme := "https".toList
  user := some "u:p".toList
  host := "A.example".toList
  portNumber := some "8080".toList
  tail := "/b?c=d://e@f.example".toList
  scheme_describes := (describes_iff_foundIn rfl _).mpr (by decide +kernel)
  user_fits := by
    have hall : "u:p".toList.all (fun c => !isBlank c && c != '@' && !endsAuthority c) = true := by
      decide +kernel
    intro u hu
    cases hu
    refine ⟨by decide, ?_⟩
    intro c hc
    simpa [and_assoc] using List.all_eq_true.mp hall c hc
  host_describes := (describes_iff_foundIn rfl _).mpr (by decide +kernel)
  portNumber_fits := by
    have hall : "8080".toList.all isDecimalDigit = true := by decide +kernel
    intro n hn
    cases hn
    exact ⟨by decide, by decide, List.all_eq_true.mp hall⟩
  tail_begins := by
    intro c hc
    cases hc
    rfl
  tail_fits := by
    have hall : "/b?c=d://e@f.example".toList.all (!isBlank ·) = true := by decide +kernel
    intro c hc
    simpa using List.all_eq_true.mp hall c hc

theorem only_host_matters_sample :
    ¬ wwwDot <+: lowercase sample.host ∧
    outcome { allowedDomains := [" www.a.EXAMPLE"] } true sample.text = .pass ∧
    ∃ h : Url.host.Describes (wwwDot ++ sample.host),
      outcome { allowedDomains := [" www.a.EXAMPLE"] } true (sample.onHost h).text = .pass := by
  have hno : ¬ wwwDot <+: lowercase sample.host := by decide +kernel
  obtain ⟨_, hlists, _, _, hwww⟩ := only_host_matters { allowedDomains := [" www.a.EXAMPLE"] } true sample
  have hpass := hlists.mpr ⟨Or.inr (by decide +kernel), List.not_mem_nil⟩
  obtain ⟨h, hsame⟩ := hwww rfl hno
  exact ⟨hno, hpass, h, hsame.trans hpass⟩

/-- Capitals are not `www.`, but are compared as such: one more in front is dropped in their place. -/
theorem www_in_capitals :
    Url.host.Describes "WWW.a.example".toList ∧ ¬ wwwDot <+: "WWW.a.example".toList ∧
    outcome { allowedDomains := ["a.example"] } true "WWW.a.example".toList = .pass ∧
    outcome { allowedDomains := ["a.example"] } true (wwwDot ++ "WWW.a.example".toList) =
      .reject .urlDomain := by
  refine ⟨(describes_iff_foundIn rfl _).mpr ?_, ?_, ?_, ?_⟩ <;> decide +kernel

end Address

end Url

end TableSchema
