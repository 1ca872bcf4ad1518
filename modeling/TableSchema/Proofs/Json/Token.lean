import TableSchema.Proofs.Json.Grammar
import TableSchema.Proofs.Number.Digits

/-!
# Numbers and strings of JSON text

The readers of numbers and strings take a text of the grammar off the front, and every text of the grammar
that is there. A number needs an end for that: what follows it must not go on with it.
-/

namespace TableSchema

namespace JsonText

open Document

/-! ## Digits -/

theorem digit_iff (c : Char) : Digit c ↔ isAsciiDigit c = true := by
  simp [Digit, isAsciiDigit]

def NoDigit (s : List Char) : Prop :=
  ∀ c, s.head? = some c → isAsciiDigit c = false

theorem digits?_sound {s rest : List Char} {ds : List Nat} (h : digits? s = some (ds, rest)) :
    ∃ front, s = front ++ rest ∧ Digits front ∧ ds = front.map digitValue := by
  have hs : s.takeWhile isAsciiDigit ++ s.dropWhile isAsciiDigit = s := List.takeWhile_append_dropWhile
  unfold digits? leadingDigits at h
  cases hf : s.takeWhile isAsciiDigit with
  | nil =>
    rw [hf] at h
    cases h
  | cons c front =>
    rw [hf] at h hs
    obtain ⟨rfl, rfl⟩ := Prod.mk.inj (Option.some.inj h)
    refine ⟨c :: front, hs.symm, ⟨List.cons_ne_nil c front, ?_⟩, rfl⟩
    intro x hx
    rw [← hf] at hx
    exact (digit_iff x).mpr (List.all_eq_true.mp List.all_takeWhile x hx)

theorem digits?_complete {s rest : List Char} (h : Digits s) (hrest : NoDigit rest) :
    digits? (s ++ rest) = some (s.map digitValue, rest) :=
  digits?_append h.ne_nil (fun c hc => (digit_iff c).mp (h.digit c hc)) hrest

theorem digitValue_eq_zero_iff {c : Char} (h : Digit c) : digitValue c = 0 ↔ c = '0' := by
  have hle : 48 ≤ c.toNat := h.1
  unfold digitValue
  rw [← Char.toNat_inj]
  have hzero : '0'.toNat = 48 := rfl
  omega

/-! ## Parts of numbers -/

theorem whole?_sound {s rest : List Char} {ds : List Nat} (h : whole? s = some (ds, rest)) :
    ∃ front, s = front ++ rest ∧ Whole front := by
  unfold whole? at h
  split at h
  · cases h
  · next hzero =>
    obtain ⟨front, rfl, hfront, rfl⟩ := digits?_sound h
    cases front with
    | nil => exact absurd rfl hfront.ne_nil
    | cons c t =>
      have hc := hfront.digit c List.mem_cons_self
      refine ⟨c :: t, rfl, ?_⟩
      by_cases h0 : c = '0'
      · cases t with
        | nil => exact h0 ▸ .zero
        | cons d t =>
          rw [List.map_cons, List.map_cons, (digitValue_eq_zero_iff hc).mpr h0] at h
          exact absurd h (hzero _ _ _)
      · exact .digits hc h0 fun x hx => hfront.digit x (List.mem_cons_of_mem c hx)

theorem digits_of_whole {s : List Char} (h : Whole s) : Digits s := by
  cases h with
  | zero => exact ⟨by decide, by simp [Digit]⟩
  | digits hc _ hs => exact ⟨List.cons_ne_nil _ _, List.forall_mem_cons.mpr ⟨hc, hs⟩⟩

theorem whole?_complete {s rest : List Char} (h : Whole s) (hrest : NoDigit rest) :
    whole? (s ++ rest) = some (s.map digitValue, rest) := by
  unfold whole?
  rw [digits?_complete (digits_of_whole h) hrest]
  cases h with
  | zero => rfl
  | digits hc h0 _ =>
    have hne := mt (digitValue_eq_zero_iff hc).mp h0
    split
    · next heq =>
      simp only [List.map_cons, Option.some.injEq, Prod.mk.injEq, List.cons.injEq] at heq
      exact absurd heq.1.1 hne
    · rfl

theorem fraction?_sound {s rest : List Char} {ds : List Nat} (h : fraction? s = some (ds, rest)) :
    ∃ front, s = front ++ rest ∧ Fraction front := by
  unfold fraction? at h
  split at h
  · obtain ⟨front, rfl, hfront, _⟩ := digits?_sound h
    exact ⟨'.' :: front, rfl, .digits hfront⟩
  · cases h
    exact ⟨[], rfl, .none⟩

theorem fraction?_complete {s : List Char} (h : Fraction s) : ∃ ds, ∀ rest, NoDigit rest →
    rest.head? ≠ some '.' → fraction? (s ++ rest) = some (ds, rest) := by
  cases h with
  | none =>
    refine ⟨[], ?_⟩
    intro rest _ hpoint
    unfold fraction?
    split
    · next heq => exact absurd (congrArg List.head? heq) hpoint
    · rfl
  | digits hs => exact ⟨_, fun rest hrest _ => digits?_complete hs hrest⟩

theorem sign_sound (s : List Char) :
    ∃ sg, s = sg ++ (sign s).2 ∧ (sg = [] ∨ sg = ['+'] ∨ sg = ['-']) := by
  unfold sign
  split
  · exact ⟨['-'], rfl, by simp⟩
  · exact ⟨['+'], rfl, by simp⟩
  · exact ⟨[], rfl, by simp⟩

theorem sign_complete {sg s : List Char} (hsg : sg = [] ∨ sg = ['+'] ∨ sg = ['-']) (hs : Digits s)
    (rest : List Char) : sign (sg ++ (s ++ rest)) = (sg == ['-'], s ++ rest) := by
  rcases hsg with rfl | rfl | rfl
  · cases s with
    | nil => exact absurd rfl hs.ne_nil
    | cons c s =>
      have hc := hs.digit c List.mem_cons_self
      rw [List.nil_append, List.cons_append]
      unfold sign
      split
      · next heq => exact absurd ((List.cons.inj heq).1 ▸ hc) (by decide)
      · next heq => exact absurd ((List.cons.inj heq).1 ▸ hc) (by decide)
      · rfl
  · rfl
  · rfl

theorem exponent?_cons (c : Char) (s : List Char) : exponent? (c :: s) =
    if c = 'e' ∨ c = 'E' then (digits? (sign s).2).map fun (ds, s') => (some ((sign s).1, ds), s')
    else some (none, c :: s) :=
  rfl

theorem exponent?_sound {s rest : List Char} {e : Option (Bool × List Nat)}
    (h : exponent? s = some (e, rest)) : ∃ front, s = front ++ rest ∧ Exponent front := by
  cases s with
  | nil =>
    cases h
    exact ⟨[], rfl, .none⟩
  | cons c s =>
    rw [exponent?_cons] at h
    by_cases hc : c = 'e' ∨ c = 'E'
    · rw [if_pos hc] at h
      obtain ⟨⟨ds, t⟩, hds, heq⟩ := Option.map_eq_some_iff.mp h
      cases heq
      obtain ⟨front, hsplit, hfront, _⟩ := digits?_sound hds
      obtain ⟨sg, hs, hsg⟩ := sign_sound s
      refine ⟨c :: (sg ++ front), ?_, .digits hc hsg hfront⟩
      rw [List.cons_append, List.append_assoc, ← hsplit, ← hs]
    · rw [if_neg hc] at h
      cases h
      exact ⟨[], rfl, .none⟩

theorem exponent?_complete {s : List Char} (h : Exponent s) : ∃ e, ∀ rest, NoDigit rest →
    rest.head? ≠ some 'e' ∧ rest.head? ≠ some 'E' → exponent? (s ++ rest) = some (e, rest) := by
  cases h with
  | none =>
    refine ⟨none, ?_⟩
    intro rest _ he
    cases rest with
    | nil => rfl
    | cons c rest =>
      have hc : ¬ (c = 'e' ∨ c = 'E') := by simpa using he
      exact if_neg hc
  | @digits c sg s hc hsg hs =>
    refine ⟨some (sg == ['-'], s.map digitValue), ?_⟩
    intro rest hrest _
    rw [List.cons_append, List.append_assoc, exponent?_cons, if_pos hc, sign_complete hsg hs,
      digits?_complete hs hrest]
    rfl

/-! ## Numbers -/

/-- What may follow a value: nothing, blank, or a sign of what holds the value. -/
def Ends (s : List Char) : Prop :=
  ∀ c, s.head? = some c → c ∈ [' ', '\t', '\n', '\r', ',', ']', '}']

section
variable {rest : List Char} (h : Ends rest)

include h

theorem noDigit_of_ends : NoDigit rest := by
  intro c hc
  have hall : [' ', '\t', '\n', '\r', ',', ']', '}'].all (!isAsciiDigit ·) = true := by decide
  simpa using List.all_eq_true.mp hall c (h c hc)

theorem head?_of_ends {c : Char} (hc : c ∉ [' ', '\t', '\n', '\r', ',', ']', '}']) :
    rest.head? ≠ some c :=
  fun heq => hc (h c heq)

theorem noDigit_exponent {e : List Char} (he : Exponent e) : NoDigit (e ++ rest) := by
  cases he with
  | none => exact noDigit_of_ends h
  | digits hc _ _ =>
    intro x hx
    cases hx
    rcases hc with rfl | rfl
    · rfl
    · rfl

theorem noPoint_exponent {e : List Char} (he : Exponent e) : (e ++ rest).head? ≠ some '.' := by
  cases he with
  | none => exact head?_of_ends h (by decide)
  | digits hc _ _ =>
    intro heq
    rcases hc with rfl | rfl
    · cases heq
    · cases heq

theorem noDigit_fraction {f e : List Char} (hf : Fraction f) (he : Exponent e) :
    NoDigit (f ++ (e ++ rest)) := by
  cases hf with
  | none => exact noDigit_exponent h he
  | digits _ =>
    intro x hx
    cases hx
    rfl

end

def unsigned? (negative : Bool) (s : List Char) : Option (Numeral × List Char) := do
  let (whole, s) ← whole? s
  let (fraction, s) ← fraction? s
  let (exponent, s) ← exponent? s
  return (⟨negative, whole, fraction, exponent⟩, s)

theorem numeral?_minus (s : List Char) : numeral? ('-' :: s) = unsigned? true s :=
  rfl

theorem numeral?_plain {s : List Char} (hs : s.head? ≠ some '-') : numeral? s = unsigned? false s := by
  simp only [numeral?]
  split
  · exact absurd rfl hs
  · rfl

theorem unsigned?_sound {negative : Bool} {s rest : List Char} {n : Numeral}
    (h : unsigned? negative s = some (n, rest)) :
    ∃ w f e, s = w ++ (f ++ (e ++ rest)) ∧ Whole w ∧ Fraction f ∧ Exponent e := by
  simp only [unsigned?, Option.bind_eq_bind, Option.bind_eq_some_iff, Prod.exists, Option.pure_def,
    Option.some.injEq, Prod.mk.injEq] at h
  obtain ⟨_, _, hwhole, _, _, hfraction, _, _, hexponent, _, rfl⟩ := h
  obtain ⟨w, rfl, hw⟩ := whole?_sound hwhole
  obtain ⟨f, rfl, hf⟩ := fraction?_sound hfraction
  obtain ⟨e, rfl, he⟩ := exponent?_sound hexponent
  exact ⟨w, f, e, rfl, hw, hf, he⟩

theorem unsigned?_complete (negative : Bool) {w f e : List Char} (hw : Whole w) (hf : Fraction f)
    (he : Exponent e) :
    ∃ n, ∀ rest, Ends rest → unsigned? negative (w ++ (f ++ (e ++ rest))) = some (n, rest) := by
  obtain ⟨ds, hds⟩ := fraction?_complete hf
  obtain ⟨x, hx⟩ := exponent?_complete he
  refine ⟨⟨negative, w.map digitValue, ds, x⟩, ?_⟩
  intro rest hrest
  have hfraction := hds (e ++ rest) (noDigit_exponent hrest he) (noPoint_exponent hrest he)
  have hexponent := hx rest (noDigit_of_ends hrest)
    ⟨head?_of_ends hrest (by decide), head?_of_ends hrest (by decide)⟩
  unfold unsigned?
  rw [whole?_complete hw (noDigit_fraction hrest hf he)]
  simp only [Option.bind_eq_bind, Option.bind_some, hfraction, hexponent]
  rfl

theorem numeral?_sound {s rest : List Char} {n : Numeral} (h : numeral? s = some (n, rest)) :
    ∃ front, s = front ++ rest ∧ Number front := by
  by_cases hs : s.head? = some '-'
  · obtain ⟨t, rfl⟩ := List.head?_eq_some_iff.mp hs
    rw [numeral?_minus] at h
    obtain ⟨w, f, e, rfl, hw, hf, he⟩ := unsigned?_sound h
    exact ⟨['-'] ++ (w ++ (f ++ e)), by simp, .mk (Or.inr rfl) hw hf he⟩
  · rw [numeral?_plain hs] at h
    obtain ⟨w, f, e, rfl, hw, hf, he⟩ := unsigned?_sound h
    exact ⟨[] ++ (w ++ (f ++ e)), by simp, .mk (Or.inl rfl) hw hf he⟩

theorem number_head {s : List Char} (h : Number s) : ∃ c t, s = c :: t ∧ (c = '-' ∨ Digit c) := by
  cases h with
  | mk hminus hw _ _ =>
    rcases hminus with rfl | rfl
    · cases hw with
      | zero => exact ⟨'0', _, rfl, Or.inr (by decide)⟩
      | digits hc _ _ => exact ⟨_, _, rfl, Or.inr hc⟩
    · exact ⟨'-', _, rfl, Or.inl rfl⟩

theorem head?_of_whole {w : List Char} (hw : Whole w) (s : List Char) : (w ++ s).head? ≠ some '-' := by
  cases hw with
  | zero => simp
  | digits hc _ _ =>
    intro heq
    exact absurd (Option.some.inj heq ▸ hc) (by decide)

theorem numeral?_complete {s : List Char} (h : Number s) :
    ∃ n, ∀ rest, Ends rest → numeral? (s ++ rest) = some (n, rest) := by
  cases h with
  | mk hminus hw hf he =>
    simp only [List.append_assoc]
    rcases hminus with rfl | rfl
    · obtain ⟨n, hn⟩ := unsigned?_complete false hw hf he
      refine ⟨n, ?_⟩
      intro rest hrest
      rw [List.nil_append, numeral?_plain (head?_of_whole hw _), hn rest hrest]
    · obtain ⟨n, hn⟩ := unsigned?_complete true hw hf he
      exact ⟨n, hn⟩

/-! ## Strings -/

theorem hexDigit?_isSome_iff (c : Char) : (hexDigit? c).isSome = true ↔ HexDigit c := by
  unfold hexDigit? HexDigit Digit
  split
  · simp_all
  · split
    · simp_all
    · split
      · simp_all
      · simp_all

theorem unit?_sound {a b c d : Char} {n : Nat} (h : unit? a b c d = some n) :
    HexDigit a ∧ HexDigit b ∧ HexDigit c ∧ HexDigit d := by
  simp only [unit?, Option.bind_eq_bind, Option.bind_eq_some_iff] at h
  obtain ⟨_, ha, _, hb, _, hc, _, hd, _⟩ := h
  simp only [← hexDigit?_isSome_iff, ha, hb, hc, hd, Option.isSome_some, and_self]

theorem unit?_complete {a b c d : Char} (ha : HexDigit a) (hb : HexDigit b) (hc : HexDigit c)
    (hd : HexDigit d) : ∃ n, unit? a b c d = some n := by
  rw [← hexDigit?_isSome_iff, Option.isSome_iff_exists] at ha hb hc hd
  obtain ⟨_, ha⟩ := ha
  obtain ⟨_, hb⟩ := hb
  obtain ⟨_, hc⟩ := hc
  obtain ⟨_, hd⟩ := hd
  simp [unit?, ha, hb, hc, hd]

theorem escape?_isSome_iff (c : Char) :
    (escape? c).isSome = true ↔ c ∈ ['"', '\\', '/', 'b', 'f', 'n', 'r', 't'] := by
  unfold escape?
  split
  all_goals simp_all

theorem pieces?_escape {c : Char} {s : List Char}
    (hunit : ∀ (a b d e : Char) (t : List Char), c = 'u' → s = a :: b :: d :: e :: t → False) :
    pieces? ('\\' :: c :: s) = do
      let x ← escape? c
      let (rest, s) ← pieces? s
      return (.char x :: rest, s) := by
  rw [pieces?]
  exact hunit

theorem pieces?_plain {c : Char} (hquote : c ≠ '"') (hback : c ≠ '\\') (s : List Char) :
    pieces? (c :: s) = if c.toNat < 0x20 then none
      else (pieces? s).map fun (rest, s) => (.char c :: rest, s) := by
  rw [pieces?]
  · exact hquote
  · intro a b d e t hc
    exact absurd hc hback
  · intro d t hc
    exact absurd hc hback

theorem pieces?_sound {s rest : List Char} {ps : List Piece} (h : pieces? s = some (ps, rest)) :
    ∃ front, s = front ++ '"' :: rest ∧ Content front := by
  induction s using pieces?.induct generalizing ps with
  | case1 => cases h
  | case2 s =>
    cases h
    exact ⟨[], rfl, .nil⟩
  | case3 a b c d s ih =>
    simp only [pieces?, Option.bind_eq_bind, Option.bind_eq_some_iff, Prod.exists, Option.pure_def,
      Option.some.injEq, Prod.mk.injEq] at h
    obtain ⟨n, hn, _, _, hs, _, rfl⟩ := h
    obtain ⟨front, rfl, hfront⟩ := ih hs
    obtain ⟨ha, hb, hc, hd⟩ := unit?_sound hn
    exact ⟨_ ++ front, rfl, .cons (.unit ha hb hc hd) hfront⟩
  | case4 c s hunit ih =>
    rw [pieces?_escape hunit] at h
    simp only [Option.bind_eq_bind, Option.bind_eq_some_iff, Prod.exists, Option.pure_def,
      Option.some.injEq, Prod.mk.injEq] at h
    obtain ⟨x, hx, _, _, hs, _, rfl⟩ := h
    obtain ⟨front, rfl, hfront⟩ := ih hs
    have hc := (escape?_isSome_iff c).mp (by rw [hx]; rfl)
    exact ⟨_ ++ front, rfl, .cons (.escape hc) hfront⟩
  | case5 c s hquote hunit hback hlow =>
    rw [pieces?, if_pos hlow] at h
    · cases h
    · exact hquote
    · exact hunit
    · exact hback
  | case6 c s hquote hunit hescape hlow ih =>
    by_cases hback : c = '\\'
    · -- a backslash that begins no escape is the last character of the text
      cases s with
      | nil =>
        rw [hback] at h
        cases h
      | cons d s => exact (hescape d s hback rfl).elim
    · rw [pieces?_plain hquote hback, if_neg hlow] at h
      obtain ⟨⟨qs, t⟩, hs, heq⟩ := Option.map_eq_some_iff.mp h
      cases heq
      obtain ⟨front, rfl, hfront⟩ := ih hs
      have hle : ' ' ≤ c := Nat.not_lt.mp hlow
      exact ⟨[c] ++ front, rfl, .cons (.plain hle hquote hback) hfront⟩

theorem pieces?_complete {s : List Char} (h : Content s) :
    ∃ ps, ∀ rest, pieces? (s ++ '"' :: rest) = some (ps, rest) := by
  induction h with
  | nil => exact ⟨[], fun _ => rfl⟩
  | cons hc _ ih =>
    obtain ⟨ps, hps⟩ := ih
    cases hc with
    | @plain c hle hquote hback =>
      have hlow : ¬ c.toNat < 0x20 := Nat.not_lt.mpr hle
      refine ⟨.char c :: ps, ?_⟩
      intro rest
      rw [List.append_assoc, List.singleton_append, pieces?_plain hquote hback, if_neg hlow, hps]
      rfl
    | @escape c hc =>
      obtain ⟨x, hx⟩ := Option.isSome_iff_exists.mp ((escape?_isSome_iff c).mpr hc)
      have hunit : c ≠ 'u' := by
        rintro rfl
        exact absurd hc (by decide)
      refine ⟨.char x :: ps, ?_⟩
      intro rest
      rw [List.append_assoc, List.cons_append, List.singleton_append,
        pieces?_escape fun _ _ _ _ _ hu => absurd hu hunit, hx, hps]
      rfl
    | unit ha hb hc hd =>
      obtain ⟨n, hn⟩ := unit?_complete ha hb hc hd
      refine ⟨.unit n :: ps, ?_⟩
      intro rest
      simp only [List.cons_append, List.nil_append, pieces?, hn, hps]
      rfl

end JsonText

end TableSchema
