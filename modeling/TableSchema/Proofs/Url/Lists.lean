import Mathlib.Data.List.Infix
import TableSchema.Proofs.Rule.Domains
import TableSchema.Proofs.Url.Host

/-!
# Domain lists and the hosts of a URL

A URL keeps to its domain lists if the host that is compared is a host of the text, and only then:
`url_lists_sound_iff` says for which texts this holds, and that both kinds of list fail for the others.
-/

namespace TableSchema

namespace Url

/-- What is compared is the host of some reading. -/
def ComparesHost (strip : Bool) (s : List Char) : Prop :=
  ∃ r : Reading s, hostOf strip s = hostForm strip r.host

theorem comparesHost_iff (strip : Bool) (s : List Char) :
    ComparesHost strip s ↔ ∃ r : Reading s, r.Plain ∨ hostForm strip r.cut = hostForm strip r.host := by
  unfold ComparesHost
  apply Iff.intro
  · intro h
    obtain ⟨r, hr⟩ := h
    rw [r.hostOf_eq_cut strip] at hr
    exact ⟨r, Or.inr hr⟩
  · intro h
    obtain ⟨r, hr⟩ := h
    refine ⟨r, ?_⟩
    rw [r.hostOf_eq_cut strip]
    rcases hr with hp | hc
    · rw [r.cut_of_plain hp]
    · exact hc

/-! ## The check of a URL -/

theorem check_url (lists : DomainSpecs) (strip : Bool) {t : String} (ht : isUrl t.toList = true) :
    (Predicate.url lists strip).check (.string t) =
      .require (lists.permits (String.ofList (hostOf strip t.toList))) .urlDomain := by
  have hne : t ≠ "" := by
    intro h
    rw [h] at ht
    exact absurd ht (by decide)
  simp only [Predicate.check, Predicate.checkText, if_neg hne, Predicate.checkUrl, if_pos ht]

theorem check_url_pass_iff (lists : DomainSpecs) (strip : Bool) {t : String} (ht : isUrl t.toList = true) :
    (Predicate.url lists strip).check (.string t) = .pass ↔
      lists.permits (String.ofList (hostOf strip t.toList)) = true := by
  rw [check_url lists strip ht, Outcome.require_eq_pass_iff]

/-! ## Lists that name every host -/

def stretches (s : List Char) : List (List Char) :=
  (List.range (s.length + 1)).flatMap fun i => (List.range (s.length + 1)).map fun n => (s.drop i).take n

theorem mem_stretches {w s : List Char} (h : w <:+: s) : w ∈ stretches s := by
  obtain ⟨b, a, rfl⟩ := h
  unfold stretches
  rw [List.mem_flatMap]
  refine ⟨b.length, ?_, List.mem_map.mpr ⟨w.length, ?_, ?_⟩⟩
  · rw [List.mem_range]; simp only [List.length_append]; omega
  · rw [List.mem_range]; simp only [List.length_append]; omega
  · rw [List.append_assoc, List.drop_left, List.take_left]

theorem Reading.host_isInfix {s : List Char} (r : Reading s) : r.host <:+: s := by
  refine ⟨r.scheme ++ r.user, r.portNumber ++ r.tail, ?_⟩
  rw [List.append_assoc, List.append_assoc]
  exact r.whole.symm

theorem exists_list_of_hosts {strip : Bool} {s : List Char} (h : ¬ ComparesHost strip s) :
    ∃ names : List String, (∀ r : Reading s, String.ofList (hostForm strip r.host) ∈ names) ∧
      String.ofList (hostOf strip s) ∉ names := by
  refine ⟨((stretches s).map fun w => String.ofList (hostForm strip w)).filter
    (· != String.ofList (hostOf strip s)), ?_, ?_⟩
  · intro r
    rw [List.mem_filter, bne_iff_ne]
    refine ⟨List.mem_map.mpr ⟨r.host, mem_stretches r.host_isInfix, rfl⟩, ?_⟩
    intro e
    exact h ⟨r, (String.ofList_injective e).symm⟩
  · intro hmem
    rw [List.mem_filter, bne_iff_ne] at hmem
    exact hmem.2 rfl

/-! ## Lists and hosts -/

section
variable (strip : Bool) {t : String} (ht : isUrl t.toList = true)

include ht in
theorem allowed_sound_iff : ComparesHost strip t.toList ↔
    ∀ lists : DomainSpecs, lists.allowedDomains ≠ [] →
      (Predicate.url lists strip).check (.string t) = .pass →
      ∃ r : Reading t.toList, String.ofList (hostForm strip r.host) ∈ lists.allowedDomains := by
  apply Iff.intro
  · intro h lists hne hpass
    obtain ⟨r, hr⟩ := h
    have hlisted := (permits_iff _ _).mp ((check_url_pass_iff lists strip ht).mp hpass)
    rw [hr] at hlisted
    exact ⟨r, hlisted.1 hne⟩
  · intro h
    let lists : DomainSpecs := { allowedDomains := [String.ofList (hostOf strip t.toList)] }
    have hpass : (Predicate.url lists strip).check (.string t) = .pass := by
      rw [check_url_pass_iff lists strip ht, permits_iff]
      simp [lists]
    obtain ⟨r, hr⟩ := h lists (List.cons_ne_nil _ _) hpass
    exact ⟨r, (String.ofList_injective (List.mem_singleton.mp hr)).symm⟩

include ht in
theorem excepted_sound_iff : ComparesHost strip t.toList ↔
    ∀ lists : DomainSpecs,
      (∀ r : Reading t.toList, String.ofList (hostForm strip r.host) ∈ lists.exceptDomains) →
      (Predicate.url lists strip).check (.string t) ≠ .pass := by
  apply Iff.intro
  · intro h lists hall hpass
    obtain ⟨r, hr⟩ := h
    have hlisted := (permits_iff _ _).mp ((check_url_pass_iff lists strip ht).mp hpass)
    rw [hr] at hlisted
    exact hlisted.2 (hall r)
  · -- if what is compared is no host, a list of all hosts does not stop the text
    intro h
    apply Classical.byContradiction
    intro hno
    obtain ⟨names, hall, hnot⟩ := exists_list_of_hosts hno
    let lists : DomainSpecs := { exceptDomains := names }
    refine h lists hall ?_
    rw [check_url_pass_iff lists strip ht, permits_iff]
    exact ⟨fun hne => absurd rfl hne, hnot⟩

end

/-- What is compared for a URL is cut out of each of its readings: the host of a plain one, else a stretch
of the user or of the tail. It is a host of the text exactly if some reading is plain or the cut reads like
the host all the same, and exactly then neither list can be got round. -/
theorem url_lists_sound_iff (strip : Bool) (t : String) (ht : isUrl t.toList = true) :
    (∀ r : Reading t.toList, hostOf strip t.toList = hostForm strip r.cut ∧ (r.Plain → r.cut = r.host) ∧
      (¬ r.Plain → r.cut <:+: r.user ∨ r.cut <:+: r.tail)) ∧
    (ComparesHost strip t.toList ↔
      ∃ r : Reading t.toList, r.Plain ∨ hostForm strip r.cut = hostForm strip r.host) ∧
    (ComparesHost strip t.toList ↔ ∀ lists : DomainSpecs, lists.allowedDomains ≠ [] →
      (Predicate.url lists strip).check (.string t) = .pass →
      ∃ r : Reading t.toList, String.ofList (hostForm strip r.host) ∈ lists.allowedDomains) ∧
    (ComparesHost strip t.toList ↔ ∀ lists : DomainSpecs,
      (∀ r : Reading t.toList, String.ofList (hostForm strip r.host) ∈ lists.exceptDomains) →
      (Predicate.url lists strip).check (.string t) ≠ .pass) := by
  refine ⟨?_, comparesHost_iff strip t.toList, allowed_sound_iff strip ht, excepted_sound_iff strip ht⟩
  intro r
  exact ⟨r.hostOf_eq_cut strip, r.cut_of_plain, r.cut_of_not_plain⟩

/-- All readings of this URL are plain and have the one host, so both lists go by it. -/
theorem url_lists_sound_plain : isUrl "https://a.example/b".toList = true ∧
    (∀ r : Reading "https://a.example/b".toList,
      hostOf true "https://a.example/b".toList = hostForm true r.cut ∧ (r.Plain → r.cut = r.host) ∧
      (¬ r.Plain → r.cut <:+: r.user ∨ r.cut <:+: r.tail)) ∧
    (∀ r : Reading "https://a.example/b".toList, r.Plain ∧ String.ofList (hostForm true r.host) = "a.example") ∧
    (∀ lists : DomainSpecs, lists.allowedDomains ≠ [] →
      (Predicate.url lists true).check (.string "https://a.example/b") = .pass →
      "a.example" ∈ lists.allowedDomains) ∧
    ∀ lists : DomainSpecs, "a.example" ∈ lists.exceptDomains →
      (Predicate.url lists true).check (.string "https://a.example/b") ≠ .pass := by
  have ht : isUrl "https://a.example/b".toList = true := by decide +kernel
  obtain ⟨hcut, hcompares, hallowed, hexcepted⟩ := url_lists_sound_iff true "https://a.example/b" ht
  -- every stretch up to the end that holds the `://` begins in front of it, where no tail begins
  have htails : ∀ t ∈ "https://a.example/b".toList.tails,
      t.head?.any endsAuthority = true → ¬ [':', '/', '/'] <:+: t := by decide +kernel
  have hplain : ∀ r : Reading "https://a.example/b".toList, r.Plain := by
    intro r
    refine ⟨?_, ?_⟩
    · intro c hc
      rw [r.user_of_no_at (by decide)] at hc
      cases hc
    · intro _ hin
      cases htail : r.tail with
      | nil =>
        rw [htail] at hin
        exact absurd hin (by decide)
      | cons c t =>
        have hc : endsAuthority c = true := r.tail_head c (by rw [htail]; rfl)
        refine htails r.tail ((List.mem_tails _ _).mpr r.tail_suffix) ?_ hin
        rw [htail]
        exact hc
  have hhost : ∀ r : Reading "https://a.example/b".toList, String.ofList (hostForm true r.host) = "a.example" := by
    intro r
    rw [← (hcut r).2.1 (hplain r), ← (hcut r).1]
    decide +kernel
  obtain ⟨r⟩ := (isUrl_iff _).mp ht
  have hhosts := hcompares.mpr ⟨r, Or.inl (hplain r)⟩
  refine ⟨ht, hcut, fun r => ⟨hplain r, hhost r⟩, ?_, ?_⟩
  · intro lists hne hpass
    obtain ⟨q, hq⟩ := hallowed.mp hhosts lists hne hpass
    rwa [hhost q] at hq
  · intro lists hmem
    refine hexcepted.mp hhosts lists ?_
    intro q
    rwa [hhost q]

/-- A URL in the query is compared in place of the host, so the text gets round the list. -/
theorem url_in_query_compared :
    isUrl "1.example/?next=http://b.example".toList = true ∧
    ¬ ComparesHost true "1.example/?next=http://b.example".toList ∧
    (Predicate.url { allowedDomains := ["b.example"] } true).check
      (.string "1.example/?next=http://b.example") = .pass ∧
    ∀ r : Reading "1.example/?next=http://b.example".toList,
      String.ofList (hostForm true r.host) ∉ ["b.example"] := by
  have hof : hostOf true "1.example/?next=http://b.example".toList = "b.example".toList := by
    decide +kernel
  have hform : ∀ r : Reading "1.example/?next=http://b.example".toList,
      (hostForm true r.host).head? ≠ some 'b' := by
    intro r
    have hs := r.eq_of_no_scheme_no_user rfl (by decide) (by decide)
    cases hr : r.host with
    | nil => decide
    | cons c host =>
      rw [hr] at hs
      have hc : some '1' = some c := congrArg List.head? hs
      have hd : hostForm true ('1' :: host) = '1' :: lowercaseAfter ['1'] host := rfl
      rw [← Option.some.inj hc, hd]
      simp
  refine ⟨by decide +kernel, ?_, by decide +kernel, ?_⟩
  · intro h
    obtain ⟨r, hr⟩ := h
    apply hform r
    rw [← hr, hof]
    rfl
  · intro r hmem
    apply hform r
    rw [← String.toList_ofList (l := hostForm true r.host), List.mem_singleton.mp hmem]
    rfl

end Url

end TableSchema
