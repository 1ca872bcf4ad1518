import TableSchema.Proofs.Url.Reading
import TableSchema.Rule.Predicate

/-!
# The host that is compared

The host of a URL is cut out of the text by delimiters, apart from the format. `hostOf_eq_cut` says for
every reading what the cut finds: the host, unless the user holds a delimiter that ends the authority or,
where no scheme is read, the tail holds `://`. Then a stretch of the user or of the tail is compared instead.
-/

namespace TableSchema

namespace Url

/-! ## Cutting -/

theorem takeWhile_stops {α : Type} {p : α → Bool} {u v : List α} (hu : ∀ c ∈ u, p c = true)
    (hv : ∀ c, v.head? = some c → p c = false) : (u ++ v).takeWhile p = u := by
  rw [List.takeWhile_append_of_pos hu]
  cases v with
  | nil => rw [List.takeWhile_nil, List.append_nil]
  | cons c v =>
    have hc : ¬ p c = true := by simp [hv c rfl]
    rw [List.takeWhile_cons_of_neg hc, List.append_nil]

theorem takeWhile_inside {α : Type} {p : α → Bool} {u : List α} (hu : ∃ c ∈ u, p c = false) (v : List α) :
    (u ++ v).takeWhile p = u.takeWhile p := by
  induction u with
  | nil => simp at hu
  | cons c u ih =>
    by_cases hc : p c = true
    · have hu' : ∃ d ∈ u, p d = false := by
        obtain ⟨d, hd, hpd⟩ := hu
        cases hd with
        | head => rw [hc] at hpd; cases hpd
        | tail _ hd => exact ⟨d, hd, hpd⟩
      rw [List.cons_append, List.takeWhile_cons_of_pos hc, List.takeWhile_cons_of_pos hc, ih hu']
    · rw [List.cons_append, List.takeWhile_cons_of_neg hc, List.takeWhile_cons_of_neg hc]

theorem bne_of_not_mem {c : Char} {s : List Char} (h : c ∉ s) : ∀ d ∈ s, (d != c) = true := by
  intro d hd
  rw [bne_iff_ne]
  intro e
  exact h (e ▸ hd)

def behindAt (s : List Char) : List Char :=
  (s.reverse.takeWhile (· != '@')).reverse

theorem behindAt_of_not_mem {s : List Char} (h : '@' ∉ s) : behindAt s = s := by
  have hall := bne_of_not_mem (s := s.reverse) (by rwa [List.mem_reverse])
  unfold behindAt
  rw [← List.append_nil s.reverse, takeWhile_stops hall (by simp), List.reverse_reverse]

theorem behindAt_append (u : List Char) {v : List Char} (h : '@' ∉ v) :
    behindAt (u ++ ['@'] ++ v) = v := by
  have hall := bne_of_not_mem (s := v.reverse) (by rwa [List.mem_reverse])
  unfold behindAt
  rw [List.reverse_append, takeWhile_stops hall (by simp), List.reverse_reverse]

def authorityHost (s : List Char) : List Char :=
  (behindAt (s.takeWhile (!endsAuthority ·))).takeWhile (· != ':')

def hostForm (strip : Bool) (host : List Char) : List Char :=
  dropWww strip (lowercase host)

theorem hostOf_eq (strip : Bool) (s : List Char) :
    hostOf strip s = hostForm strip (authorityHost (withoutScheme s)) :=
  rfl

/-! ## The scheme -/

theorem afterScheme?_cons {c : Char} (s : List Char) (h : ¬ (c = ':' ∧ ['/', '/'] <+: s)) :
    afterScheme? (c :: s) = afterScheme? s := by
  rw [afterScheme?]
  intro t e ht
  exact h ⟨e, t, ht.symm⟩

theorem afterScheme?_scheme {body : List Char} (h : ':' ∉ body) (t : List Char) :
    afterScheme? (body ++ [':', '/', '/'] ++ t) = some t := by
  induction body with
  | nil => rfl
  | cons c body ih =>
    simp only [List.mem_cons, not_or] at h
    rw [List.cons_append, List.cons_append, afterScheme?_cons _ (fun e => h.1 e.1.symm), ih h.2]

theorem afterScheme?_append {p : List Char} (hslash : '/' ∉ p) (hcolon : p.getLast? ≠ some ':')
    (t : List Char) : afterScheme? (p ++ t) = afterScheme? t := by
  induction p with
  | nil => rfl
  | cons c p ih =>
    have hp : afterScheme? (p ++ t) = afterScheme? t := by
      cases p with
      | nil => rfl
      | cons d p => exact ih (by simp at hslash ⊢; exact hslash.2) (by simpa using hcolon)
    rw [List.cons_append, afterScheme?_cons _ ?_, hp]
    -- a match would need a slash inside `p`, or a colon as its last character
    intro e
    obtain ⟨hc, u, hu⟩ := e
    cases p with
    | nil => exact hcolon (by rw [hc]; rfl)
    | cons d p =>
      have hd : '/' = d := (List.cons.inj hu).1
      exact hslash (by simp [← hd])

theorem afterScheme?_suffix {s t : List Char} (h : afterScheme? s = some t) : t <:+ s := by
  induction s with
  | nil => cases h
  | cons c s ih =>
    by_cases hc : c = ':' ∧ ['/', '/'] <+: s
    · obtain ⟨hc, u, hu⟩ := hc
      subst hc hu
      have ht : u = t := Option.some.inj h
      exact ⟨[':', '/', '/'], by rw [ht]; rfl⟩
    · rw [afterScheme?_cons s hc] at h
      exact (ih h).trans (List.suffix_cons c s)

theorem afterScheme?_eq_none (s : List Char) : afterScheme? s = none ↔ ¬ [':', '/', '/'] <:+: s := by
  induction s with
  | nil => simp [afterScheme?]
  | cons c s ih =>
    rw [List.infix_cons_iff]
    by_cases hc : c = ':' ∧ ['/', '/'] <+: s
    · obtain ⟨hc, u, hu⟩ := hc
      subst hc hu
      simp [afterScheme?]
    · rw [afterScheme?_cons s hc, ih, List.cons_prefix_cons, not_or]
      apply Iff.intro
      · intro h
        exact ⟨fun e => hc ⟨e.1.symm, e.2⟩, h⟩
      · intro h
        exact h.2

/-! ## Delimiters in the parts of a reading -/

section
variable {s : List Char} (r : Reading s)

theorem Reading.scheme_cases :
    r.scheme = [] ∨ ∃ body, r.scheme = body ++ [':', '/', '/'] ∧ ':' ∉ body := by
  rcases (describes_opt r.scheme).mp r.scheme_describes with h | h
  · exact Or.inl h
  · obtain ⟨c, body, hs, _, hbody⟩ := describes_scheme _ h
    exact Or.inr ⟨c :: body, hs, hbody⟩

theorem Reading.user_cases :
    r.user = [] ∨ ∃ body, r.user = body ++ ['@'] ∧ '@' ∉ body ∧ '/' ∉ body := by
  rcases (describes_opt r.user).mp r.user_describes with h | h
  · exact Or.inl h
  · exact Or.inr (describes_user _ h)

theorem Reading.portNumber_cases :
    r.portNumber = [] ∨ ∃ ds, r.portNumber = ':' :: ds ∧ ds ≠ [] ∧
      ∀ c ∈ ds, (CharClass.property .digit).contains c = true := by
  rcases (describes_opt r.portNumber).mp r.portNumber_describes with h | h
  · exact Or.inl h
  · exact Or.inr (describes_portNumber _ h)

theorem Reading.user_of_no_at (hat : '@' ∉ s) : r.user = [] := by
  rcases r.user_cases with h | h
  · exact h
  · obtain ⟨body, h, _⟩ := h
    have hmem : '@' ∈ r.scheme ++ (r.user ++ (r.host ++ (r.portNumber ++ r.tail))) := by simp [h]
    rw [← r.whole] at hmem
    exact absurd hmem hat

theorem Reading.tail_suffix : r.tail <:+ s := by
  refine ⟨r.scheme ++ (r.user ++ (r.host ++ r.portNumber)), ?_⟩
  simp only [List.append_assoc]
  exact r.whole.symm

theorem Reading.eq_of_no_scheme_no_user {c : Char} (hc : s.head? = some c)
    (hletter : letter.contains c = false) (hat : '@' ∉ s) : s = r.host ++ (r.portNumber ++ r.tail) := by
  have hscheme : r.scheme = [] := by
    rcases (describes_opt r.scheme).mp r.scheme_describes with h | h
    · exact h
    · obtain ⟨d, body, h, hd, _⟩ := describes_scheme _ h
      have hwhole := congrArg List.head? r.whole
      rw [hc, h, List.append_assoc, List.cons_append, List.head?_cons] at hwhole
      rw [← Option.some.inj hwhole, hletter] at hd
      cases hd
  have hwhole := r.whole
  rw [hscheme, r.user_of_no_at hat] at hwhole
  exact hwhole

theorem Reading.tail_head (c : Char) (hc : r.tail.head? = some c) : endsAuthority c = true := by
  rcases (describes_opt r.tail).mp r.tail_describes with h | h
  · rw [h] at hc
    cases hc
  · obtain ⟨d, t, ht, hd⟩ := describes_tail _ h
    rw [ht] at hc
    cases hc
    exact hd

theorem Reading.not_mem_host {c : Char} (hc : Url.host.rejects c = true) : c ∉ r.host :=
  not_mem_of_describes hc r.host_describes

theorem Reading.not_mem_portNumber {c : Char} (hc : (Pattern.opt Url.portNumber).rejects c = true) :
    c ∉ r.portNumber :=
  not_mem_of_describes hc r.portNumber_describes

def Reading.site : List Char :=
  r.host ++ r.portNumber

theorem Reading.not_mem_site {c : Char} (hh : Url.host.rejects c = true)
    (hn : (Pattern.opt Url.portNumber).rejects c = true) : c ∉ r.site := by
  unfold Reading.site
  rw [List.mem_append, not_or]
  exact ⟨r.not_mem_host hh, r.not_mem_portNumber hn⟩

theorem Reading.site_holds_no_end (c : Char) (hc : c ∈ r.site) : endsAuthority c = false := by
  have hslash : '/' ∉ r.site := r.not_mem_site (by decide) (by decide)
  have hquery : '?' ∉ r.site := r.not_mem_site (by decide) (by decide)
  have hhash : '#' ∉ r.site := r.not_mem_site (by decide) (by decide)
  unfold endsAuthority
  simp only [Bool.or_eq_false_iff, beq_eq_false_iff_ne]
  refine ⟨⟨?_, ?_⟩, ?_⟩
  · intro e; exact hslash (e ▸ hc)
  · intro e; exact hquery (e ▸ hc)
  · intro e; exact hhash (e ▸ hc)

theorem Reading.site_getLast? : r.site.getLast? ≠ some ':' := by
  intro h
  have hmem := List.mem_of_getLast? h
  unfold Reading.site at h hmem
  rcases r.portNumber_cases with hn | hn
  · rw [hn, List.append_nil] at hmem
    exact r.not_mem_host (by decide) hmem
  · obtain ⟨ds, hn, hne, hall⟩ := hn
    -- the last character is a digit of the port
    have hlast : ds.getLast? = some ':' := by
      rw [hn, List.getLast?_append, List.getLast?_cons, Option.some_or] at h
      cases hd : ds.getLast? with
      | none => exact absurd (List.getLast?_eq_none_iff.mp hd) hne
      | some d => rw [hd] at h; exact h
    exact absurd (hall _ (List.mem_of_getLast? hlast)) (by decide)

theorem Reading.site_takeWhile : r.site.takeWhile (· != ':') = r.host := by
  unfold Reading.site
  apply takeWhile_stops
  · exact bne_of_not_mem (r.not_mem_host (by decide))
  · intro c hc
    rcases r.portNumber_cases with hn | hn
    · rw [hn] at hc
      cases hc
    · obtain ⟨ds, hn, _⟩ := hn
      rw [hn] at hc
      cases hc
      rfl

/-! ## What the cut finds -/

/-- What the cut finds in place of the host: a stretch of the tail behind its first `://` where no scheme
is read, else a stretch of the user if the user holds a delimiter that ends the authority. -/
def Reading.cut : List Char :=
  if r.scheme = [] ∧ (afterScheme? r.tail).isSome then authorityHost (withoutScheme r.tail)
  else if r.user.any endsAuthority then (r.user.takeWhile (!endsAuthority ·)).takeWhile (· != ':')
  else r.host

/-- No delimiter leads the cut astray. -/
structure Reading.Plain : Prop where
  user : ∀ c ∈ r.user, endsAuthority c = false
  tail : r.scheme = [] → ¬ [':', '/', '/'] <:+: r.tail

theorem Reading.cut_of_plain (h : r.Plain) : r.cut = r.host := by
  unfold Reading.cut
  rw [if_neg, if_neg]
  · intro hu
    obtain ⟨c, hc, he⟩ := List.any_eq_true.mp hu
    rw [h.user c hc] at he
    cases he
  · intro ht
    rw [(afterScheme?_eq_none _).mpr (h.tail ht.1)] at ht
    cases ht.2

theorem behindAt_suffix (t : List Char) : behindAt t <:+ t := by
  unfold behindAt
  rw [← List.reverse_prefix, List.reverse_reverse]
  exact List.takeWhile_prefix _

theorem authorityHost_isInfix (t : List Char) : authorityHost t <:+: t := by
  have h₁ : t.takeWhile (!endsAuthority ·) <+: t := List.takeWhile_prefix _
  have h₂ := behindAt_suffix (t.takeWhile (!endsAuthority ·))
  have h₃ : authorityHost t <+: behindAt (t.takeWhile (!endsAuthority ·)) := List.takeWhile_prefix _
  exact h₃.isInfix.trans (h₂.isInfix.trans h₁.isInfix)

theorem Reading.cut_of_not_plain (h : ¬ r.Plain) : r.cut <:+: r.user ∨ r.cut <:+: r.tail := by
  unfold Reading.cut
  by_cases ht : r.scheme = [] ∧ (afterScheme? r.tail).isSome
  · rw [if_pos ht]
    obtain ⟨t, hs⟩ := Option.isSome_iff_exists.mp ht.2
    unfold withoutScheme
    rw [hs]
    exact Or.inr ((authorityHost_isInfix t).trans (afterScheme?_suffix hs).isInfix)
  · rw [if_neg ht]
    -- the tail does not lead the cut astray, so it must be the user
    have hu : r.user.any endsAuthority = true := by
      rw [← Bool.not_eq_false]
      intro hu
      refine h ⟨?_, ?_⟩
      · intro c hc
        have := List.any_eq_false.mp hu c hc
        simpa using this
      · intro hs hin
        refine ht ⟨hs, ?_⟩
        rw [Option.isSome_iff_ne_none]
        intro hnone
        exact (afterScheme?_eq_none _).mp hnone hin
    rw [if_pos hu]
    have h₁ : r.user.takeWhile (!endsAuthority ·) <+: r.user := List.takeWhile_prefix _
    have h₂ := List.takeWhile_prefix (l := r.user.takeWhile (!endsAuthority ·)) (· != ':')
    exact Or.inl (h₂.trans h₁).isInfix

theorem Reading.afterScheme?_eq : afterScheme? (r.user ++ (r.site ++ r.tail)) = afterScheme? r.tail := by
  rw [← List.append_assoc]
  apply afterScheme?_append
  · rw [List.mem_append, not_or]
    refine ⟨?_, r.not_mem_site (by decide) (by decide)⟩
    rcases r.user_cases with hu | hu
    · rw [hu]
      exact List.not_mem_nil
    · obtain ⟨body, hu, _, hslash⟩ := hu
      rw [hu]
      simpa using hslash
  · -- the last character is one of the port, of the host, or the `@` of the user
    by_cases hsite : r.site = []
    · rw [hsite, List.append_nil]
      rcases r.user_cases with hu | hu
      · rw [hu]
        decide
      · obtain ⟨body, hu, _⟩ := hu
        rw [hu, List.getLast?_concat]
        decide
    · rw [List.getLast?_append, List.getLast?_eq_some_getLast hsite, Option.some_or,
        ← List.getLast?_eq_some_getLast hsite]
      exact r.site_getLast?

theorem Reading.withoutScheme_eq : withoutScheme s =
    if r.scheme = [] ∧ (afterScheme? r.tail).isSome then withoutScheme r.tail
    else r.user ++ (r.site ++ r.tail) := by
  have hwhole : s = r.scheme ++ (r.user ++ (r.site ++ r.tail)) := by
    unfold Reading.site
    rw [List.append_assoc]
    exact r.whole
  rcases r.scheme_cases with hs | hs
  · -- no scheme is read, so only the tail can hold `://`
    have hrest : s = r.user ++ (r.site ++ r.tail) := by
      rw [hs] at hwhole
      exact hwhole
    have hpass : afterScheme? s = afterScheme? r.tail := (congrArg afterScheme? hrest).trans r.afterScheme?_eq
    unfold withoutScheme
    rw [hpass]
    cases ht : afterScheme? r.tail with
    | some t => rw [if_pos ⟨hs, rfl⟩]; rfl
    | none =>
      rw [if_neg (by simp), Option.getD_none]
      exact hrest
  · -- the scheme holds the first `://` of the text
    obtain ⟨body, hs, hbody⟩ := hs
    have hpass : afterScheme? s = some (r.user ++ (r.site ++ r.tail)) := by
      refine (congrArg afterScheme? hwhole).trans ?_
      rw [hs, afterScheme?_scheme hbody]
    have hne : r.scheme ≠ [] := by simp [hs]
    unfold withoutScheme
    rw [hpass, if_neg (fun h => hne h.1), Option.getD_some]

theorem Reading.authorityHost_eq : authorityHost (r.user ++ (r.site ++ r.tail)) =
    if r.user.any endsAuthority then (r.user.takeWhile (!endsAuthority ·)).takeWhile (· != ':')
    else r.host := by
  unfold authorityHost
  by_cases hu : r.user.any endsAuthority = true
  · rw [if_pos hu]
    obtain ⟨c, hc, he⟩ := List.any_eq_true.mp hu
    rw [takeWhile_inside ⟨c, hc, by simp [he]⟩, behindAt_of_not_mem]
    -- the only `@` of the user is its last character, behind the delimiter
    intro hat
    rcases r.user_cases with h | h
    · rw [h] at hc
      cases hc
    · obtain ⟨body, h, hbody, _⟩ := h
      have hc' : c ∈ body := by
        rw [h, List.mem_append, List.mem_singleton] at hc
        rcases hc with hc | hc
        · exact hc
        · rw [hc] at he
          exact absurd he (by decide)
      rw [h, takeWhile_inside ⟨c, hc', by simp [he]⟩] at hat
      have hpre : body.takeWhile (!endsAuthority ·) <+: body := List.takeWhile_prefix _
      exact hbody (hpre.mem hat)
  · rw [if_neg hu]
    have hat : '@' ∉ r.site := r.not_mem_site (by decide) (by decide)
    have hcut : (r.user ++ (r.site ++ r.tail)).takeWhile (!endsAuthority ·) = r.user ++ r.site := by
      rw [← List.append_assoc]
      apply takeWhile_stops
      · intro c hc
        rw [Bool.not_eq_true']
        rcases List.mem_append.mp hc with hc | hc
        · have := List.any_eq_false.mp (Bool.eq_false_iff.mpr hu) c hc
          simpa using this
        · exact r.site_holds_no_end c hc
      · intro c hc
        simp [r.tail_head c hc]
    rw [hcut]
    rcases r.user_cases with h | h
    · rw [h, List.nil_append, behindAt_of_not_mem hat, r.site_takeWhile]
    · obtain ⟨body, h, _⟩ := h
      rw [h, behindAt_append body hat, r.site_takeWhile]

theorem Reading.hostOf_eq_cut (strip : Bool) : hostOf strip s = hostForm strip r.cut := by
  rw [hostOf_eq, r.withoutScheme_eq]
  unfold Reading.cut
  by_cases ht : r.scheme = [] ∧ (afterScheme? r.tail).isSome
  · rw [if_pos ht, if_pos ht]
  · rw [if_neg ht, if_neg ht, r.authorityHost_eq]

end

end Url

end TableSchema
