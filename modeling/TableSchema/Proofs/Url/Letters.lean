import TableSchema.Proofs.Pattern.Case
import TableSchema.Proofs.Rule.Domains
import TableSchema.Proofs.Text.Folding
import TableSchema.Proofs.Url.Host

/-!
# The letters of a host

A host stays a host when ASCII letters change case and when `www.` is put in front. Its characters are in
ASCII but for the long s and the Kelvin sign, so lower case does not depend on what stands around it.
-/

namespace TableSchema

namespace Url

/-! ## The characters of a host -/

theorem not_offAscii_of_range {first last : Char} (hfirst : 0 < first.toNat) (hlast : last.toNat < 128)
    (d : Char) (hd : (CharClass.range first last).contains d = true) : ¬ OffAscii d := by
  simp only [CharClass.contains, Bool.and_eq_true, decide_eq_true_eq] at hd
  have hle : first.toNat ≤ d.toNat := hd.1
  have hge : d.toNat ≤ last.toNat := hd.2
  unfold OffAscii
  omega

theorem not_offAscii_of_ofRanges {rs : List (Char × Char)}
    (hrs : ∀ r ∈ rs, 0 < r.1.toNat ∧ r.2.toNat < 128) (d : Char)
    (hd : (CharClass.ofRanges rs).contains d = true) : ¬ OffAscii d := by
  induction rs with
  | nil => cases hd
  | cons r rs ih =>
    have hd : (CharClass.range r.1 r.2).contains d = true ∨ (CharClass.ofRanges rs).contains d = true :=
      Bool.or_eq_true_iff.mp hd
    obtain ⟨hfirst, hlast⟩ := hrs r List.mem_cons_self
    rcases hd with hd | hd
    · exact not_offAscii_of_range hfirst hlast d hd
    · exact ih (fun r hr => hrs r (List.mem_cons_of_mem _ hr)) hd

/-- What is asked of the classes of a host: they ignore case and keep close to ASCII. -/
structure HostClass (k : CharClass) : Prop where
  ignoresCase : k.IgnoresCase
  foldsToAscii : ∀ c, k.contains c = true → FoldsToAscii c

theorem hostClass_anyCase {k : CharClass} (hk : ∀ d, k.contains d = true → ¬ OffAscii d) :
    HostClass (.anyCase k) where
  ignoresCase := CharClass.ignoresCase_anyCase k
  foldsToAscii := fun _ hc => CharClass.foldsToAscii_of_anyCase hk hc

theorem hostClass_dot : HostClass (.single '.') where
  ignoresCase := apply_asciiLower (by decide)
  foldsToAscii := by
    intro c hc
    rw [(contains_single '.' c).mp hc]
    exact Or.inl rfl

theorem host_classes : Url.host.AllClasses HostClass := by
  have hletter : HostClass letter := hostClass_anyCase (not_offAscii_of_range (by decide) (by decide))
  have hedge : HostClass letterOrDigit := hostClass_anyCase (not_offAscii_of_ofRanges (by decide))
  have hinner : HostClass labelChar := hostClass_anyCase (not_offAscii_of_ofRanges (by decide))
  exact ⟨⟨⟨hedge, hinner, hedge⟩, hostClass_dot⟩, hletter⟩

theorem describes_host_of_sameLetters {host host' : List Char} (h : SameLetters host host')
    (hhost : Url.host.Describes host) : Url.host.Describes host' :=
  describes_of_sameLetters rfl (host_classes.mono fun _ hk => hk.ignoresCase) h hhost

theorem lowercase_host {host : List Char} (h : Url.host.Describes host) :
    lowercase host = host.map lowerChar := by
  refine lowercaseAfter_eq_map ?_ []
  intro c hc
  have hfolds := forall_mem_of_describes (host_classes.mono fun _ hk => hk.foldsToAscii) h c hc
  rcases hfolds with hascii | hlong | hkelvin
  · have hlt : c.toNat < 128 := of_decide_eq_true hascii
    omega
  · omega
  · omega

/-! ## The host as it is compared -/

theorem hostForm_of_sameLetters {host host' : List Char} (h : SameLetters host host') (strip : Bool) :
    hostForm strip host = hostForm strip host' := by
  unfold hostForm
  rw [h.lowercase]

theorem describes_www : (Pattern.sequence [label, text ['.']]).Describes wwwDot :=
  (describes_iff_foundIn rfl wwwDot).mpr (by decide +kernel)

theorem describes_www_append {host : List Char} (h : Url.host.Describes host) :
    Url.host.Describes (wwwDot ++ host) := by
  obtain ⟨labels, top, rfl, hlabels, htop⟩ := (describes_sequence rfl rfl host).mp h
  refine (describes_sequence rfl rfl _).mpr ⟨wwwDot ++ labels, top, ?_, ?_, htop⟩
  · rw [List.append_assoc]
  · exact describes_plus_append rfl describes_www hlabels

theorem hostForm_www {host : List Char} (h : Url.host.Describes host)
    (hno : ¬ wwwDot <+: lowercase host) : hostForm true (wwwDot ++ host) = hostForm true host := by
  -- no capital sigma is left that could tell from `www.` that it stands inside a word
  have hlower : lowercase (wwwDot ++ host) = wwwDot ++ lowercase host := by
    rw [lowercase_host (describes_www_append h), lowercase_host h, List.map_append]
    rfl
  unfold hostForm
  rw [hlower, dropWww_www, dropWww_of_not_prefix hno]

end Url

end TableSchema
