import TableSchema.Proofs.Pattern.Language
import TableSchema.Rule.Url

/-!
# Readings of a URL

A reading splits a text into scheme, user, host, port and tail by the groups of the URL format.
`isUrl_iff`: the format accepts exactly the texts that have a reading. The other lemmas say which
delimiters a part can hold.
-/

namespace TableSchema

namespace Url

structure Reading (s : List Char) where
  scheme : List Char
  user : List Char
  host : List Char
  portNumber : List Char
  tail : List Char
  whole : s = scheme ++ (user ++ (host ++ (portNumber ++ tail)))
  scheme_describes : (Pattern.opt Url.scheme).Describes scheme
  user_describes : (Pattern.opt Url.user).Describes user
  host_describes : Url.host.Describes host
  portNumber_describes : (Pattern.opt Url.portNumber).Describes portNumber
  tail_describes : (Pattern.opt Url.tail).Describes tail

/-! ## The format -/

theorem isUrl_iff (s : List Char) : isUrl s = true ↔ Nonempty (Reading s) := by
  have hformat : isUrl s = true ↔ _ :=
    foundIn_between_ends [.opt scheme, .opt user, host, .opt portNumber, .opt tail] rfl s
  rw [hformat]
  apply Iff.intro
  · intro h
    obtain ⟨scheme, _, rfl, hs, h⟩ := (describes_sequence rfl rfl _).mp h
    obtain ⟨user, _, rfl, hu, h⟩ := (describes_sequence rfl rfl _).mp h
    obtain ⟨host, _, rfl, hh, h⟩ := (describes_sequence rfl rfl _).mp h
    obtain ⟨portNumber, tail, rfl, hn, ht⟩ := (describes_sequence rfl rfl _).mp h
    exact ⟨⟨scheme, user, host, portNumber, tail, rfl, hs, hu, hh, hn, ht⟩⟩
  · intro h
    obtain ⟨r⟩ := h
    rw [r.whole]
    refine (describes_sequence rfl rfl _).mpr ⟨_, _, rfl, r.scheme_describes, ?_⟩
    refine (describes_sequence rfl rfl _).mpr ⟨_, _, rfl, r.user_describes, ?_⟩
    refine (describes_sequence rfl rfl _).mpr ⟨_, _, rfl, r.host_describes, ?_⟩
    exact (describes_sequence rfl rfl _).mpr ⟨_, _, rfl, r.portNumber_describes, r.tail_describes⟩

/-! ## The parts -/

theorem describes_text (cs w : List Char) : (Url.text cs).Describes w ↔ w = cs := by
  induction cs generalizing w with
  | nil => exact Iff.rfl
  | cons c cs ih =>
    have hfree : ∀ cs, (Url.text cs).lookFree = true := by
      intro cs
      induction cs with
      | nil => rfl
      | cons c cs ih => cases cs with
        | nil => rfl
        | cons d cs => exact ih
    unfold Url.text at ih hfree ⊢
    rw [List.map_cons, describes_sequence rfl (hfree cs)]
    simp only [ih, describes_char, contains_single]
    apply Iff.intro
    · intro h
      obtain ⟨u, v, rfl, ⟨d, rfl, rfl⟩, rfl⟩ := h
      rfl
    · intro h
      exact ⟨[c], cs, h, ⟨c, rfl, rfl⟩, rfl⟩

theorem describes_scheme (w : List Char) (h : Url.scheme.Describes w) :
    ∃ c body, w = c :: body ++ [':', '/', '/'] ∧ letter.contains c = true ∧ ':' ∉ c :: body := by
  obtain ⟨u, v, hw, hu, hv⟩ := (describes_sequence rfl rfl w).mp h
  obtain ⟨body, t, hv, hbody, ht⟩ := (describes_sequence rfl rfl v).mp hv
  obtain ⟨c, hu, hc⟩ := (describes_char _ u).mp hu
  refine ⟨c, body, ?_, hc, ?_⟩
  · rw [hw, hu, hv, (describes_text _ t).mp ht]
    rfl
  · intro hmem
    rcases List.mem_cons.mp hmem with hmem | hmem
    · rw [← hmem] at hc
      exact absurd hc (by decide)
    · exact not_mem_of_describes (by decide) hbody hmem

theorem describes_user (w : List Char) (h : Url.user.Describes w) :
    ∃ body, w = body ++ ['@'] ∧ '@' ∉ body ∧ '/' ∉ body := by
  obtain ⟨body, t, hw, hbody, ht⟩ := (describes_seq rfl rfl w).mp h
  refine ⟨body, ?_, not_mem_of_describes (by decide) hbody, not_mem_of_describes (by decide) hbody⟩
  rw [hw, (describes_text _ t).mp ht]

theorem describes_portNumber (w : List Char) (h : Url.portNumber.Describes w) :
    ∃ ds, w = ':' :: ds ∧ ds ≠ [] ∧ ∀ c ∈ ds, (CharClass.property .digit).contains c = true := by
  obtain ⟨t, ds, hw, ht, hds⟩ := (describes_seq rfl rfl w).mp h
  obtain ⟨hlen, _, hall⟩ := (describes_times_char _ _ _ ds).mp hds
  refine ⟨ds, ?_, ?_, hall⟩
  · rw [hw, (describes_text _ t).mp ht]
    rfl
  · intro hnil
    rw [hnil] at hlen
    exact absurd hlen (by decide)

theorem describes_tail (w : List Char) (h : Url.tail.Describes w) :
    ∃ c t, w = c :: t ∧ endsAuthority c = true := by
  obtain ⟨u, t, hw, hu, _⟩ := (describes_seq rfl rfl w).mp h
  obtain ⟨c, hu, hc⟩ := (describes_char _ u).mp hu
  refine ⟨c, t, by rw [hw, hu]; rfl, ?_⟩
  simp only [CharClass.ofChars, List.foldr, CharClass.contains, contains_single, Bool.or_eq_true,
    Bool.false_eq_true, or_false] at hc
  unfold endsAuthority
  rcases hc with hc | hc | hc <;> subst hc <;> rfl

end Url

end TableSchema
