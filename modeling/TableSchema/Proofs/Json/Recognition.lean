import TableSchema.Proofs.Json.Token

/-!
# JSON text is recognised

`read?_isSome_iff`: the reader accepts a text exactly when the grammar derives it. The reader runs on fuel,
so what it reads is derived by induction on that. What is derived is read by induction on the grammar; twice
the length of a text is enough fuel for any depth.
-/

namespace TableSchema

namespace JsonText

open Document

/-! ## Blank -/

theorem space_iff (s : List Char) : Space s ↔ ∀ c ∈ s, isJsonSpace c = true := by
  have hc : ∀ c, (c = ' ' ∨ c = '\t' ∨ c = '\n' ∨ c = '\r') ↔ isJsonSpace c = true := by
    intro c
    simp only [isJsonSpace, Bool.or_eq_true, beq_iff_eq]
    grind
  simp only [Space, hc]

theorem space_nil : Space [] :=
  fun _ h => absurd h List.not_mem_nil

theorem space_append {u w : List Char} (hu : Space u) (hw : Space w) : Space (u ++ w) :=
  List.forall_mem_append.mpr ⟨hu, hw⟩

theorem skipSpace_split (s : List Char) : ∃ u, s = u ++ skipSpace s ∧ Space u := by
  refine ⟨s.takeWhile isJsonSpace, List.takeWhile_append_dropWhile.symm, ?_⟩
  rw [space_iff]
  exact List.all_eq_true.mp List.all_takeWhile

theorem skipSpace_append {u : List Char} (hu : Space u) (s : List Char) :
    skipSpace (u ++ s) = skipSpace s :=
  List.dropWhile_append_of_pos ((space_iff u).mp hu)

theorem skipSpace_cons {c : Char} (hc : isJsonSpace c = false) (s : List Char) :
    skipSpace (c :: s) = c :: s :=
  List.dropWhile_cons_of_neg (by simp [hc])

theorem skipSpace_space {u : List Char} (hu : Space u) {c : Char} (hc : isJsonSpace c = false)
    (s : List Char) : skipSpace (u ++ c :: s) = c :: s := by
  rw [skipSpace_append hu, skipSpace_cons hc]

theorem ends_space {u s : List Char} (hu : Space u) (hs : Ends s) : Ends (u ++ s) := by
  cases u with
  | nil => exact hs
  | cons c u =>
    intro x hx
    cases hx
    rcases hu c List.mem_cons_self with rfl | rfl | rfl | rfl
    all_goals decide

theorem ends_cons {c : Char} (hc : c ∈ [' ', '\t', '\n', '\r', ',', ']', '}']) (s : List Char) :
    Ends (c :: s) := by
  intro x hx
  cases hx
  exact hc

theorem items_space {u s : List Char} (hu : Space u) (h : Items s) : Items (u ++ s) := by
  cases h with
  | one hu' hv hw =>
    rw [← List.append_assoc]
    exact .one (space_append hu hu') hv hw
  | cons hu' hv hw hs =>
    rw [← List.append_assoc]
    exact .cons (space_append hu hu') hv hw hs

theorem member_space {u m : List Char} (hu : Space u) (h : Member m) : Member (u ++ m) := by
  cases h with
  | mk hu' hn hw hx hv hy =>
    rw [← List.append_assoc]
    exact .mk (space_append hu hu') hn hw hx hv hy

theorem members_space {u s : List Char} (hu : Space u) (h : Members s) : Members (u ++ s) := by
  cases h with
  | one hm => exact .one (member_space hu hm)
  | cons hm hs =>
    rw [← List.append_assoc]
    exact .cons (member_space hu hm) hs

/-! ## What is read is derived -/

def ValuesDerived (fuel : Nat) : Prop :=
  ∀ s d rest, value? fuel s = some (d, rest) → ∃ front, s = front ++ rest ∧ Value front

def ItemsDerived (fuel : Nat) : Prop :=
  ∀ s ds rest, items? fuel s = some (ds, rest) → ∃ front, s = front ++ ']' :: rest ∧ Items front

def MembersDerived (fuel : Nat) : Prop :=
  ∀ s ms rest, members? fuel s = some (ms, rest) → ∃ front, s = front ++ '}' :: rest ∧ Members front

section
variable {fuel : Nat}

theorem value_derived (hi : ItemsDerived fuel) (hm : MembersDerived fuel) : ValuesDerived (fuel + 1) := by
  intro s d rest h
  unfold value? at h
  split at h
  · cases h
    exact ⟨['n', 'u', 'l', 'l'], rfl, .null⟩
  · cases h
    exact ⟨['t', 'r', 'u', 'e'], rfl, .true⟩
  · cases h
    exact ⟨['f', 'a', 'l', 's', 'e'], rfl, .false⟩
  · next s =>
    obtain ⟨⟨ps, t⟩, hps, heq⟩ := Option.map_eq_some_iff.mp h
    cases heq
    obtain ⟨front, rfl, hfront⟩ := pieces?_sound hps
    exact ⟨'"' :: (front ++ ['"']), by simp, .string (.mk hfront)⟩
  · next s =>
    obtain ⟨u, hsplit, hu⟩ := skipSpace_split s
    split at h
    · next t hclose =>
      cases h
      exact ⟨'[' :: (u ++ [']']), by rw [hsplit, hclose]; simp, .emptyArray hu⟩
    · obtain ⟨⟨ds, t⟩, hds, heq⟩ := Option.map_eq_some_iff.mp h
      cases heq
      obtain ⟨front, hfront, hitems⟩ := hi _ _ _ hds
      exact ⟨'[' :: (u ++ front ++ [']']), by rw [hsplit, hfront]; simp, .array (items_space hu hitems)⟩
  · next s =>
    obtain ⟨u, hsplit, hu⟩ := skipSpace_split s
    split at h
    · next t hclose =>
      cases h
      exact ⟨'{' :: (u ++ ['}']), by rw [hsplit, hclose]; simp, .emptyObject hu⟩
    · obtain ⟨⟨ms, t⟩, hms, heq⟩ := Option.map_eq_some_iff.mp h
      cases heq
      obtain ⟨front, hfront, hmembers⟩ := hm _ _ _ hms
      exact ⟨'{' :: (u ++ front ++ ['}']), by rw [hsplit, hfront]; simp, .object (members_space hu hmembers)⟩
  · -- any other first character must begin a number
    obtain ⟨⟨n, t⟩, hn, heq⟩ := Option.map_eq_some_iff.mp h
    cases heq
    obtain ⟨front, rfl, hfront⟩ := numeral?_sound hn
    exact ⟨front, rfl, .number hfront⟩

theorem items_derived (hv : ValuesDerived fuel) (hi : ItemsDerived fuel) : ItemsDerived (fuel + 1) := by
  intro s ds rest h
  simp only [items?, Option.bind_eq_bind, Option.bind_eq_some_iff, Prod.exists] at h
  obtain ⟨d, t, hd, h⟩ := h
  obtain ⟨v, rfl, hvalue⟩ := hv _ _ _ hd
  obtain ⟨w, ht, hw⟩ := skipSpace_split t
  split at h
  · next t' hcomma =>
    obtain ⟨⟨ds', t''⟩, hds, heq⟩ := Option.bind_eq_some_iff.mp h
    cases heq
    obtain ⟨x, ht', hx⟩ := skipSpace_split t'
    obtain ⟨front, hfront, hitems⟩ := hi _ _ _ hds
    refine ⟨[] ++ (v ++ (w ++ ',' :: (x ++ front))), ?_, .cons space_nil hvalue hw (items_space hx hitems)⟩
    rw [ht, hcomma, ht', hfront]
    simp
  · next t' hclose =>
    cases h
    exact ⟨[] ++ (v ++ w), by rw [ht, hclose]; simp, .one space_nil hvalue hw⟩
  · cases h

theorem members_derived (hv : ValuesDerived fuel) (hm : MembersDerived fuel) :
    MembersDerived (fuel + 1) := by
  intro s ms rest h
  unfold members? at h
  split at h
  · next s =>
    obtain ⟨⟨name, t⟩, hname, hafter⟩ := Option.bind_eq_some_iff.mp h
    obtain ⟨n, rfl, hn⟩ := pieces?_sound hname
    obtain ⟨w, ht, hw⟩ := skipSpace_split t
    simp only at hafter
    split at hafter
    · next t' hcolon =>
      obtain ⟨⟨d, y⟩, hd, hend⟩ := Option.bind_eq_some_iff.mp hafter
      obtain ⟨x, ht', hx⟩ := skipSpace_split t'
      obtain ⟨v, hv', hvalue⟩ := hv _ _ _ hd
      obtain ⟨z, hy, hz⟩ := skipSpace_split y
      have hmember : Member ([] ++ ('"' :: (n ++ ['"']) ++ (w ++ ':' :: (x ++ (v ++ z))))) :=
        .mk space_nil (.mk hn) hw hx hvalue hz
      simp only at hend
      split at hend
      · next y' hcomma =>
        obtain ⟨⟨ms', y''⟩, hms, heq⟩ := Option.bind_eq_some_iff.mp hend
        cases heq
        obtain ⟨q, hy', hq⟩ := skipSpace_split y'
        obtain ⟨front, hfront, hmembers⟩ := hm _ _ _ hms
        refine ⟨_, ?_, .cons hmember (members_space hq hmembers)⟩
        rw [ht, hcolon, ht', hv', hy, hcomma, hy', hfront]
        simp
      · next y' hclose =>
        cases hend
        refine ⟨_, ?_, .one hmember⟩
        rw [ht, hcolon, ht', hv', hy, hclose]
        simp
      · cases hend
    · cases hafter
  · cases h

end

theorem derived (fuel : Nat) : ValuesDerived fuel ∧ ItemsDerived fuel ∧ MembersDerived fuel := by
  induction fuel with
  | zero =>
    refine ⟨?_, ?_, ?_⟩
    all_goals
      intro _ _ _ h
      cases h
  | succ fuel ih =>
    obtain ⟨hv, hi, hm⟩ := ih
    exact ⟨value_derived hi hm, items_derived hv hi, members_derived hv hm⟩

/-! ## What is derived is read -/

theorem ne_of_number_start {c : Char} (hc : c = '-' ∨ Digit c) {x : Char}
    (hx : x ∈ [' ', '\t', '\n', '\r', ']', 'n', 't', 'f', '"', '[', '{']) : c ≠ x := by
  have hall : [' ', '\t', '\n', '\r', ']', 'n', 't', 'f', '"', '[', '{'].all
      (fun x => x != '-' && !isAsciiDigit x) = true := by decide
  have hother := List.all_eq_true.mp hall x hx
  rintro rfl
  rcases hc with rfl | hc
  · cases hother
  · simp [(digit_iff c).mp hc] at hother

theorem value_head {s : List Char} (h : Value s) :
    ∃ c t, s = c :: t ∧ isJsonSpace c = false ∧ c ≠ ']' := by
  cases h with
  | number hn =>
    obtain ⟨c, t, rfl, hc⟩ := number_head hn
    refine ⟨c, t, rfl, ?_, ne_of_number_start hc (by decide)⟩
    have hspace : ∀ x ∈ [' ', '\t', '\n', '\r'], c ≠ x := fun x hx =>
      ne_of_number_start hc (List.mem_append_left [']', 'n', 't', 'f', '"', '[', '{'] hx)
    simpa [isJsonSpace, and_assoc, and_left_comm] using hspace
  | string hs =>
    cases hs
    exact ⟨'"', _, rfl, by decide⟩
  | _ => exact ⟨_, _, rfl, by decide⟩

theorem skipSpace_value {u v : List Char} (hu : Space u) (hv : Value v) (s : List Char) :
    skipSpace (u ++ (v ++ s)) = v ++ s := by
  obtain ⟨c, t, rfl, hc, _⟩ := value_head hv
  exact skipSpace_space hu hc (t ++ s)

theorem skipSpace_value_ne {u v : List Char} (hu : Space u) (hv : Value v) (s : List Char) :
    (skipSpace (u ++ (v ++ s))).head? ≠ some ']' := by
  rw [skipSpace_value hu hv]
  obtain ⟨c, t, rfl, _, hne⟩ := value_head hv
  simpa using hne

theorem items_head {s : List Char} (h : Items s) (rest : List Char) :
    (skipSpace (s ++ rest)).head? ≠ some ']' := by
  cases h with
  | one hu hv hw =>
    rw [List.append_assoc, List.append_assoc]
    exact skipSpace_value_ne hu hv _
  | cons hu hv hw hs =>
    rw [List.append_assoc, List.append_assoc]
    exact skipSpace_value_ne hu hv _

theorem member_head {m : List Char} (h : Member m) (rest : List Char) :
    (skipSpace (m ++ rest)).head? = some '"' := by
  cases h with
  | mk hu hn _ _ _ _ =>
    cases hn
    rw [List.append_assoc, List.cons_append, List.cons_append, skipSpace_space hu (by decide)]
    rfl

theorem members_head {s : List Char} (h : Members s) (rest : List Char) :
    (skipSpace (s ++ rest)).head? = some '"' := by
  cases h with
  | one hm => exact member_head hm rest
  | cons hm hs =>
    rw [List.append_assoc]
    exact member_head hm _

section
variable (fuel : Nat)

theorem value?_number {s : List Char} (h : Number s) (rest : List Char) :
    value? (fuel + 1) (s ++ rest) = (numeral? (s ++ rest)).map fun (n, t) => (.number n, t) := by
  obtain ⟨c, t, rfl, hc⟩ := number_head h
  rw [List.cons_append, value?]
  -- what is left is that no case above the last one applies
  all_goals
    intro _ heq
    exact absurd (List.cons.inj heq).1 (ne_of_number_start hc (by decide))

theorem value?_string (s : List Char) :
    value? (fuel + 1) ('"' :: s) = (pieces? s).map fun (p, t) => (.string p, t) :=
  rfl

theorem value?_array {s : List Char} (hs : (skipSpace s).head? ≠ some ']') :
    value? (fuel + 1) ('[' :: s) = (items? fuel (skipSpace s)).map fun (ds, t) => (.array ds, t) := by
  unfold value?
  simp only
  split
  · next heq => exact absurd (by rw [heq]; rfl) hs
  · rfl

theorem value?_emptyArray {s t : List Char} (hs : skipSpace s = ']' :: t) :
    value? (fuel + 1) ('[' :: s) = some (.array [], t) := by
  unfold value?
  simp only [hs]

theorem value?_object {s : List Char} (hs : (skipSpace s).head? ≠ some '}') :
    value? (fuel + 1) ('{' :: s) = (members? fuel (skipSpace s)).map fun (ms, t) => (.object ms, t) := by
  unfold value?
  simp only
  split
  · next heq => exact absurd (by rw [heq]; rfl) hs
  · rfl

theorem value?_emptyObject {s t : List Char} (hs : skipSpace s = '}' :: t) :
    value? (fuel + 1) ('{' :: s) = some (.object [], t) := by
  unfold value?
  simp only [hs]

end

/-- A value is read off the front of whatever follows it. -/
def Reads (s : List Char) (d : Document) : Prop :=
  ∀ fuel rest, 2 * s.length ≤ fuel → Ends rest → value? fuel (s ++ rest) = some (d, rest)

def ItemsRead (s : List Char) (ds : List Document) : Prop :=
  ∀ fuel rest, 2 * s.length < fuel → items? fuel (skipSpace (s ++ ']' :: rest)) = some (ds, rest)

/-- What is made of a member that was read, by the sign behind it. -/
def behind? (fuel : Nat) (p : List Piece × Document) :
    List Char → Option (List (List Piece × Document) × List Char)
  | ',' :: s => (members? fuel (skipSpace s)).map fun (ps, s) => (p :: ps, s)
  | '}' :: s => some ([p], s)
  | _ => none

def MemberReads (m : List Char) (p : List Piece × Document) : Prop :=
  ∀ fuel c t, 2 * m.length ≤ fuel → c = ',' ∨ c = '}' →
    members? (fuel + 1) (skipSpace (m ++ c :: t)) = behind? fuel p (c :: t)

def MembersRead (s : List Char) (ps : List (List Piece × Document)) : Prop :=
  ∀ fuel rest, 2 * s.length < fuel → members? fuel (skipSpace (s ++ '}' :: rest)) = some (ps, rest)

/-! ### Values -/

theorem reads_of_succ {c : Char} {s : List Char} {d : Document}
    (h : ∀ fuel rest, 2 * s.length < fuel → Ends rest → value? (fuel + 1) (c :: s ++ rest) = some (d, rest)) :
    Reads (c :: s) d := by
  intro fuel rest hfuel hrest
  rw [List.length_cons] at hfuel
  cases fuel with
  | zero => omega
  | succ fuel => exact h fuel rest (by omega) hrest

theorem reads_number {s : List Char} (h : Number s) : ∃ n, Reads s (.number n) := by
  obtain ⟨n, hn⟩ := numeral?_complete h
  obtain ⟨c, t, rfl, _⟩ := number_head h
  refine ⟨n, reads_of_succ ?_⟩
  intro fuel rest _ hrest
  rw [value?_number fuel h, hn rest hrest]
  rfl

theorem reads_string {s : List Char} (h : Quoted s) : ∃ ps, Reads s (.string ps) := by
  obtain ⟨h⟩ := h
  obtain ⟨ps, hps⟩ := pieces?_complete h
  refine ⟨ps, reads_of_succ ?_⟩
  intro fuel rest _ _
  rw [List.cons_append, List.append_assoc, value?_string, List.singleton_append, hps]
  rfl

theorem reads_emptyArray {u : List Char} (hu : Space u) : Reads ('[' :: (u ++ [']'])) (.array []) := by
  refine reads_of_succ ?_
  intro fuel rest _ _
  rw [List.cons_append, List.append_assoc]
  exact value?_emptyArray fuel (skipSpace_space hu (by decide) rest)

theorem reads_array {s : List Char} {ds : List Document} (h : Items s) (hds : ItemsRead s ds) :
    Reads ('[' :: (s ++ [']'])) (.array ds) := by
  refine reads_of_succ ?_
  intro fuel rest hfuel _
  rw [List.length_append] at hfuel
  rw [List.cons_append, List.append_assoc, List.singleton_append, value?_array fuel (items_head h _),
    hds fuel rest (by omega)]
  rfl

theorem reads_emptyObject {u : List Char} (hu : Space u) : Reads ('{' :: (u ++ ['}'])) (.object []) := by
  refine reads_of_succ ?_
  intro fuel rest _ _
  rw [List.cons_append, List.append_assoc]
  exact value?_emptyObject fuel (skipSpace_space hu (by decide) rest)

theorem reads_object {s : List Char} {ps : List (List Piece × Document)} (h : Members s)
    (hps : MembersRead s ps) : Reads ('{' :: (s ++ ['}'])) (.object ps) := by
  refine reads_of_succ ?_
  intro fuel rest hfuel _
  have hhead : (skipSpace (s ++ '}' :: rest)).head? ≠ some '}' := by
    rw [members_head h]
    decide
  rw [List.length_append] at hfuel
  rw [List.cons_append, List.append_assoc, List.singleton_append, value?_object fuel hhead,
    hps fuel rest (by omega)]
  rfl

/-! ### Items -/

section
variable {u v w : List Char} {d : Document} (hu : Space u) (hv : Value v) (hd : Reads v d) (hw : Space w)

include hu hv hd hw

theorem itemsRead_one : ItemsRead (u ++ (v ++ w)) [d] := by
  intro fuel rest hfuel
  simp only [List.length_append] at hfuel
  obtain ⟨fuel, rfl⟩ := Nat.exists_eq_succ_of_ne_zero (Nat.ne_zero_of_lt hfuel)
  have hvalue := hd fuel (w ++ ']' :: rest) (by omega) (ends_space hw (ends_cons (by decide) rest))
  have hclose : skipSpace (w ++ ']' :: rest) = ']' :: rest := skipSpace_space hw (by decide) rest
  rw [List.append_assoc, List.append_assoc, skipSpace_value hu hv]
  simp only [items?, hvalue, Option.bind_eq_bind, Option.bind_some, hclose]
  rfl

theorem itemsRead_cons {s : List Char} {ds : List Document} (hs : ItemsRead s ds) :
    ItemsRead (u ++ (v ++ (w ++ ',' :: s))) (d :: ds) := by
  intro fuel rest hfuel
  simp only [List.length_append, List.length_cons] at hfuel
  obtain ⟨fuel, rfl⟩ := Nat.exists_eq_succ_of_ne_zero (Nat.ne_zero_of_lt hfuel)
  have hvalue := hd fuel (w ++ ',' :: (s ++ ']' :: rest)) (by omega)
    (ends_space hw (ends_cons (by decide) _))
  have hcomma : skipSpace (w ++ ',' :: (s ++ ']' :: rest)) = ',' :: (s ++ ']' :: rest) :=
    skipSpace_space hw (by decide) _
  simp only [List.append_assoc, List.cons_append]
  rw [skipSpace_value hu hv]
  simp only [items?, hvalue, Option.bind_eq_bind, Option.bind_some, hcomma, hs fuel rest (by omega)]
  rfl

end

/-! ### Members -/

theorem memberReads_mk {u n w x v y : List Char} {ps : List Piece} {d : Document} (hu : Space u)
    (hn : ∀ rest, pieces? (n ++ '"' :: rest) = some (ps, rest)) (hw : Space w) (hx : Space x) (hv : Value v)
    (hd : Reads v d) (hy : Space y) :
    MemberReads (u ++ ('"' :: (n ++ ['"']) ++ (w ++ ':' :: (x ++ (v ++ y))))) (ps, d) := by
  intro fuel c t hfuel hc
  simp only [List.length_append, List.length_cons] at hfuel
  have hsign : isJsonSpace c = false := by rcases hc with rfl | rfl <;> decide
  have hend : Ends (y ++ c :: t) :=
    ends_space hy (ends_cons (by rcases hc with rfl | rfl <;> decide) t)
  have hname := hn (w ++ ':' :: (x ++ (v ++ (y ++ c :: t))))
  have hvalue := hd fuel (y ++ c :: t) (by omega) hend
  simp only [List.append_assoc, List.cons_append, List.nil_append]
  rw [skipSpace_space hu (by decide)]
  simp only [members?, hname, Option.bind_eq_bind, Option.bind_some, skipSpace_space hw
    (by decide : isJsonSpace ':' = false), skipSpace_value hx hv, hvalue, skipSpace_space hy hsign]
  rcases hc with rfl | rfl
  · exact (Option.map_eq_bind ..).symm
  · rfl

section
variable {m : List Char} {p : List Piece × Document} (hp : MemberReads m p)

include hp

theorem membersRead_one : MembersRead m [p] := by
  intro fuel rest hfuel
  obtain ⟨fuel, rfl⟩ := Nat.exists_eq_succ_of_ne_zero (Nat.ne_zero_of_lt hfuel)
  exact hp fuel '}' rest (by omega) (Or.inr rfl)

theorem membersRead_cons {s : List Char} {ps : List (List Piece × Document)} (hs : MembersRead s ps) :
    MembersRead (m ++ ',' :: s) (p :: ps) := by
  intro fuel rest hfuel
  simp only [List.length_append, List.length_cons] at hfuel
  obtain ⟨fuel, rfl⟩ := Nat.exists_eq_succ_of_ne_zero (Nat.ne_zero_of_lt hfuel)
  rw [List.append_assoc, List.cons_append, hp fuel ',' _ (by omega) (Or.inl rfl), behind?,
    hs fuel rest (by omega)]
  rfl

end

/-! ### All of the grammar -/

mutual

theorem value_read {s : List Char} : Value s → ∃ d, Reads s d
  | .null => ⟨.null, reads_of_succ fun _ _ _ _ => rfl⟩
  | .true => ⟨.bool true, reads_of_succ fun _ _ _ _ => rfl⟩
  | .false => ⟨.bool false, reads_of_succ fun _ _ _ _ => rfl⟩
  | .number h => by
    obtain ⟨n, hn⟩ := reads_number h
    exact ⟨_, hn⟩
  | .string h => by
    obtain ⟨ps, hps⟩ := reads_string h
    exact ⟨_, hps⟩
  | .emptyArray hu => ⟨_, reads_emptyArray hu⟩
  | .array h => by
    obtain ⟨ds, hds⟩ := items_read h
    exact ⟨_, reads_array h hds⟩
  | .emptyObject hu => ⟨_, reads_emptyObject hu⟩
  | .object h => by
    obtain ⟨ps, hps⟩ := members_read h
    exact ⟨_, reads_object h hps⟩

theorem items_read {s : List Char} : Items s → ∃ ds, ItemsRead s ds
  | .one hu hv hw => by
    obtain ⟨d, hd⟩ := value_read hv
    exact ⟨_, itemsRead_one hu hv hd hw⟩
  | .cons hu hv hw hs => by
    obtain ⟨d, hd⟩ := value_read hv
    obtain ⟨ds, hds⟩ := items_read hs
    exact ⟨_, itemsRead_cons hu hv hd hw hds⟩

theorem member_read {m : List Char} : Member m → ∃ p, MemberReads m p
  | .mk hu hn hw hx hv hy => by
    obtain ⟨d, hd⟩ := value_read hv
    obtain ⟨hn⟩ := hn
    obtain ⟨ps, hps⟩ := pieces?_complete hn
    exact ⟨_, memberReads_mk hu hps hw hx hv hd hy⟩

theorem members_read {s : List Char} : Members s → ∃ ps, MembersRead s ps
  | .one hm => by
    obtain ⟨p, hp⟩ := member_read hm
    exact ⟨_, membersRead_one hp⟩
  | .cons hm hs => by
    obtain ⟨p, hp⟩ := member_read hm
    obtain ⟨ps, hps⟩ := members_read hs
    exact ⟨_, membersRead_cons hp hps⟩

end

/-! ## Whole texts -/

theorem text_of_value? {fuel : Nat} {s rest : List Char} {d : Document}
    (h : value? fuel (skipSpace s) = some (d, rest)) (hrest : skipSpace rest = []) : Text s := by
  obtain ⟨u, hs, hu⟩ := skipSpace_split s
  obtain ⟨w, hw', hw⟩ := skipSpace_split rest
  obtain ⟨v, hsplit, hv⟩ := (derived fuel).1 _ _ _ h
  rw [hrest, List.append_nil] at hw'
  rw [hs, hsplit, hw']
  exact .mk hu hv hw

theorem read?_of_reads {u v w : List Char} {d : Document} (hu : Space u) (hv : Value v) (hd : Reads v d)
    (hw : Space w) : read? (u ++ (v ++ w)) = some d := by
  have hend : Ends w := by
    have := ends_space hw (fun _ h => nomatch h : Ends [])
    rwa [List.append_nil] at this
  have hblank : skipSpace w = [] := by
    have := skipSpace_append hw []
    rwa [List.append_nil] at this
  have hfuel : 2 * v.length ≤ 2 * (u ++ (v ++ w)).length + 2 := by
    simp only [List.length_append]
    omega
  unfold read?
  rw [skipSpace_value hu hv, hd _ w hfuel hend]
  exact if_pos hblank

theorem read?_of_text {s : List Char} (h : Text s) : ∃ d, read? s = some d := by
  cases h with
  | mk hu hv hw =>
    obtain ⟨d, hd⟩ := value_read hv
    exact ⟨d, read?_of_reads hu hv hd hw⟩

theorem read?_isSome_iff (s : List Char) : (read? s).isSome = true ↔ Text s := by
  apply Iff.intro
  · intro h
    unfold read? at h
    split at h
    · next d rest hread =>
      by_cases hrest : skipSpace rest = []
      · exact text_of_value? hread hrest
      · rw [if_neg hrest] at h
        cases h
    · cases h
  · intro h
    obtain ⟨d, hd⟩ := read?_of_text h
    rw [hd]
    rfl

end JsonText

end TableSchema
