import Mathlib.Data.List.Forall2
import Mathlib.Data.List.GetD
import TableSchema.Proofs.Collection.Order
import TableSchema.Proofs.Options.Records

/-!
# Options are stable

`ofText_stable`: the members of the text of an object may come in any order, and so may those of its two
records; members with other names may come anywhere, if their names are text. The options are the same, or
the reason why there are none. What is absent has its default, and no id of a collection is empty.
-/

namespace TableSchema

namespace Options

open JsonText

/-! ## Members in another order, and more of them -/

/-- The same members in any order, among others whose names are text and none of `names`. -/
def Arranged (names : List String) (ms ns : List WrittenMember) : Prop :=
  ∃ extra, (∀ m ∈ extra, ∃ name, m.name? = some name ∧ name ∉ names) ∧ ns.Perm (extra ++ ms)

/-- The same member, or a record under the same name with its members arranged anew. -/
inductive Reworded : WrittenMember → WrittenMember → Prop where
  | same (m : WrittenMember) : Reworded m m
  | compiler {m n : WrittenMember} {ms ns : List WrittenMember} : m.name? = some "compiler" →
      n.name = m.name → ObjectText ms m.value → ObjectText ns n.value →
      Arranged ["enforce_json_max_size", "strip_www_prefix"] ms ns → Reworded m n
  | collection {m n : WrittenMember} {ms ns : List WrittenMember} : m.name? = some "collection" →
      n.name = m.name → ObjectText ms m.value → ObjectText ns n.value →
      Arranged ["id_length"] ms ns → Reworded m n

/-- Each member reworded, and then all of them arranged anew. -/
def Alike (ms ns : List WrittenMember) : Prop :=
  ∃ mid, List.Forall₂ Reworded ms mid ∧ Arranged ["compiler", "collection"] mid ns

def Illegible (ms : List WrittenMember) : Prop :=
  ∃ m ∈ ms, m.name? = none

inductive HoldsIllegible (ms : List WrittenMember) : Prop where
  | here : Illegible ms → HoldsIllegible ms
  | within {m : WrittenMember} {inner : List WrittenMember} : m ∈ ms →
      m.name? = some "compiler" ∨ m.name? = some "collection" → ObjectText inner m.value →
      Illegible inner → HoldsIllegible ms

/-- No member of a record in its place in an array, or under its name in an object. -/
inductive Lacks (i : Nat) (name : String) (s : List Char) : Prop where
  | object {ms : List WrittenMember} : ObjectText ms s → (∀ m ∈ ms, m.name? ≠ some name) → Lacks i name s
  | array {items : List Document} : Document.read? s = some (.array items) → items.length ≤ i → Lacks i name s

structure Defaults (ms : List WrittenMember) (o : Options) : Prop where
  compiler : (∀ m ∈ ms, m.name? ≠ some "compiler") → o.compiler = ⟨false, true⟩
  collection : (∀ m ∈ ms, m.name? ≠ some "collection") → o.collection = ⟨12⟩
  enforceJsonMaxSize : ∀ m ∈ ms, m.name? = some "compiler" → Lacks 0 "enforce_json_max_size" m.value →
    o.compiler.enforceJsonMaxSize = false
  stripWwwPrefix : ∀ m ∈ ms, m.name? = some "compiler" → Lacks 1 "strip_www_prefix" m.value →
    o.compiler.stripWwwPrefix = true
  idLength : ∀ m ∈ ms, m.name? = some "collection" → Lacks 0 "id_length" m.value →
    o.collection.idLength = 12

/-! ## Arranged members are read alike -/

theorem legible_iff (ms : List WrittenMember) :
    (∀ p ∈ ms.map (·.read), nameOf? p ≠ none) ↔ ¬ Illegible ms := by
  simp only [List.forall_mem_map, Illegible, not_exists, not_and]
  rfl

section
variable {names : List String} {ms ns : List WrittenMember} (h : Arranged names ms ns)

include h

theorem Arranged.illegible_iff : Illegible ms ↔ Illegible ns := by
  obtain ⟨extra, hextra, hperm⟩ := h
  apply Iff.intro
  · rintro ⟨m, hm, hname⟩
    exact ⟨m, hperm.mem_iff.mpr (List.mem_append_right extra hm), hname⟩
  · rintro ⟨m, hm, hname⟩
    rcases List.mem_append.mp (hperm.mem_iff.mp hm) with hm | hm
    · obtain ⟨name, htext, _⟩ := hextra m hm
      rw [hname] at htext
      cases htext
    · exact ⟨m, hm, hname⟩

theorem Arranged.givenAlike {α : Type} (read : Document → α) (name : String) (hname : name ∈ names) :
    GivenAlike read name (ms.map (·.read)) (ns.map (·.read)) := by
  obtain ⟨extra, hextra, hperm⟩ := h
  -- none of the further members comes under a name that the record knows
  have hunknown : given name (extra.map (·.read)) = [] := by
    unfold given
    rw [List.map_eq_nil_iff, List.filter_eq_nil_iff, List.forall_mem_map]
    intro m hm heq
    obtain ⟨other, hother, hno⟩ := hextra m hm
    have hsame : m.name? = some name := beq_iff_eq.mp heq
    rw [hother, Option.some.injEq] at hsame
    exact hno (hsame ▸ hname)
  have hgiven : given name ((extra ++ ms).map (·.read)) = given name (ms.map (·.read)) := by
    unfold given at hunknown ⊢
    rw [List.map_append, List.filter_append, List.map_append, hunknown, List.nil_append]
  have hsplit : (given name (ns.map (·.read))).Perm (given name ((extra ++ ms).map (·.read))) :=
    ((hperm.map _).filter _).map _
  rw [hgiven] at hsplit
  exact (hsplit.map read).symm

end

theorem proper_iff {names : List String} {ms ns : List WrittenMember} (hlegible : Illegible ms ↔ Illegible ns)
    (hlen : ∀ name ∈ names, (given name (ms.map (·.read))).length = (given name (ns.map (·.read))).length) :
    Proper names (ms.map (·.read)) ↔ Proper names (ns.map (·.read)) :=
  proper_iff_of_alike ((legible_iff ms).trans ((not_congr hlegible).trans (legible_iff ns).symm)) hlen

section
variable {ms ns : List WrittenMember}

theorem compiler?_arranged (h : Arranged ["enforce_json_max_size", "strip_www_prefix"] ms ns) :
    compiler? (.object (ms.map (·.read))) = compiler? (.object (ns.map (·.read))) := by
  have halike := h.givenAlike flag?
  refine record?_congr (proper_iff h.illegible_iff fun name hname => (halike name hname).length_given) ?_
  intro hproper
  rw [hproper.member_eq (i := 0) rfl (halike _ (by decide)) false,
    hproper.member_eq (i := 1) rfl (halike _ (by decide)) true]

theorem collection?_arranged (h : Arranged ["id_length"] ms ns) :
    collection? (.object (ms.map (·.read))) = collection? (.object (ns.map (·.read))) := by
  have halike := h.givenAlike count?
  refine record?_congr (proper_iff h.illegible_iff fun name hname => (halike name hname).length_given) ?_
  intro hproper
  rw [hproper.member_eq (i := 0) rfl (halike _ (by decide)) 12]

end

/-! ## Reworded members are read alike -/

theorem read_of_object {m : WrittenMember} {ms : List WrittenMember} (h : ObjectText ms m.value) :
    m.read.2 = .object (ms.map (·.read)) :=
  WrittenMember.read_value (read?_object h)

section
variable {m n : WrittenMember} (h : Reworded m n)

include h

theorem Reworded.name?_eq : n.name? = m.name? := by
  have hname : n.name = m.name := by
    cases h with
    | same => rfl
    | compiler _ hname _ _ _ => exact hname
    | collection _ hname _ _ _ => exact hname
  unfold WrittenMember.name? WrittenMember.read
  rw [hname]

theorem Reworded.compiler?_eq (hname : m.name? = some "compiler") :
    compiler? m.read.2 = compiler? n.read.2 := by
  cases h with
  | same => rfl
  | compiler _ _ hm hn harranged =>
    rw [read_of_object hm, read_of_object hn]
    exact compiler?_arranged harranged
  | collection hother _ _ _ _ =>
    rw [hname] at hother
    exact absurd hother (by decide)

theorem Reworded.collection?_eq (hname : m.name? = some "collection") :
    collection? m.read.2 = collection? n.read.2 := by
  cases h with
  | same => rfl
  | compiler hother _ _ _ _ =>
    rw [hname] at hother
    exact absurd hother (by decide)
  | collection _ _ hm hn harranged =>
    rw [read_of_object hm, read_of_object hn]
    exact collection?_arranged harranged

end

section
variable {ms ns : List WrittenMember} (h : List.Forall₂ Reworded ms ns)

include h

theorem illegible_reworded : Illegible ms ↔ Illegible ns := by
  induction h with
  | nil => rfl
  | cons hm _ ih =>
    unfold Illegible at ih ⊢
    rw [List.exists_mem_cons_iff, List.exists_mem_cons_iff, ih, hm.name?_eq]

theorem given_reworded {α : Type} {read : Document → α} {name : String}
    (hread : ∀ m n, Reworded m n → m.name? = some name → read m.read.2 = read n.read.2) :
    GivenAlike read name (ms.map (·.read)) (ns.map (·.read)) := by
  have heq : (given name (ms.map (·.read))).map read = (given name (ns.map (·.read))).map read := by
    induction h with
    | nil => rfl
    | @cons m n _ _ hm _ ih =>
      have hsame : nameOf? n.read = nameOf? m.read := hm.name?_eq
      unfold given at ih ⊢
      by_cases hname : nameOf? m.read = some name
      · simp [hname, hsame, ih, hread m n hm hname]
      · simp [hname, hsame, ih]
  exact .of_eq heq

end

/-! ## Whole texts -/

theorem decode?_alike {ms ns : List WrittenMember} (h : Alike ms ns) :
    decode? (.object (ms.map (·.read))) = decode? (.object (ns.map (·.read))) := by
  obtain ⟨mid, hreworded, harranged⟩ := h
  -- rewording goes first, then the arrangement of the reworded members
  have hcompiler : GivenAlike compiler? "compiler" (ms.map (·.read)) (ns.map (·.read)) :=
    (given_reworded hreworded fun _ _ => Reworded.compiler?_eq).trans
      (harranged.givenAlike compiler? _ (by decide))
  have hcollection : GivenAlike collection? "collection" (ms.map (·.read)) (ns.map (·.read)) :=
    (given_reworded hreworded fun _ _ => Reworded.collection?_eq).trans
      (harranged.givenAlike collection? _ (by decide))
  refine record?_congr (proper_iff ((illegible_reworded hreworded).trans harranged.illegible_iff) ?_) ?_
  · intro name hname
    rcases List.mem_cons.mp hname with rfl | hname
    · exact hcompiler.length_given
    · rw [List.mem_singleton.mp hname]
      exact hcollection.length_given
  · intro hproper
    rw [hproper.member_eq (i := 0) rfl hcompiler {}, hproper.member_eq (i := 1) rfl hcollection {}]

theorem ofText_object {ms : List WrittenMember} {s : String} (h : ObjectText ms s.toList) :
    ofText s = match decode? (.object (ms.map (·.read))) with
      | none => .error .notReadable
      | some o => if o.collection.idLength = 0 then .error .noIdLength else .ok o := by
  unfold ofText
  rw [read?_object h]
  rfl

theorem decode?_of_ofText {ms : List WrittenMember} {s : String} (h : ObjectText ms s.toList) {o : Options}
    (ho : ofText s = .ok o) : decode? (.object (ms.map (·.read))) = some o := by
  rw [ofText_object h] at ho
  split at ho
  · cases ho
  · next hdecode =>
    split at ho
    · cases ho
    · cases ho
      exact hdecode

theorem idLength_pos {s : String} {o : Options} (h : ofText s = .ok o) : 1 ≤ o.collection.idLength := by
  unfold ofText at h
  split at h
  · cases h
  · split at h
    · cases h
    · cases h
      omega

/-! ## Names that are no text -/

section
variable {ms : List WrittenMember} (h : Illegible ms)

include h

theorem record?_illegible (names : List String) : record? names (.object (ms.map (·.read))) = none :=
  record?_of_not_proper fun hproper => (legible_iff ms).mp hproper.legible h

theorem compiler?_illegible : compiler? (.object (ms.map (·.read))) = none := by
  unfold compiler?
  rw [record?_illegible h]
  rfl

theorem collection?_illegible : collection? (.object (ms.map (·.read))) = none := by
  unfold collection?
  rw [record?_illegible h]
  rfl

theorem decode?_illegible : decode? (.object (ms.map (·.read))) = none := by
  unfold decode?
  rw [record?_illegible h]
  rfl

end

/-! ## What a text gives -/

theorem given_eq_nil {ms : List WrittenMember} {name : String} (h : ∀ m ∈ ms, m.name? ≠ some name) :
    given name (ms.map (·.read)) = [] := by
  unfold given
  rw [List.map_eq_nil_iff, List.filter_eq_nil_iff, List.forall_mem_map]
  intro m hm heq
  exact h m hm (beq_iff_eq.mp heq)

theorem Lacks.get_eq_none {i : Nat} {name : String} {s : List Char} (h : Lacks i name s) {names : List String}
    (hi : names[i]? = some name) {d : Document} (hd : Document.read? s = some d)
    {get : Nat → Option Document} (hget : record? names d = some get) : get i = none := by
  cases h with
  | object htext hno =>
    rw [read?_object htext] at hd
    cases hd
    obtain ⟨_, rfl⟩ := record?_object_eq_some hget
    rw [taken_of_getElem? hi, given_eq_nil hno]
    rfl
  | array hread hlen =>
    rw [hread] at hd
    cases hd
    simp only [record?] at hget
    split at hget
    · cases hget
      -- an array gives its items by position, and it ends in front of this one
      exact List.getElem?_eq_none hlen
    · cases hget

theorem Lacks.read?_eq {i : Nat} {name : String} {m : WrittenMember} (h : Lacks i name m.value) :
    Document.read? m.value = some m.read.2 := by
  cases h with
  | object htext _ => rw [read_of_object htext, read?_object htext]
  | array hread _ => rw [WrittenMember.read_value hread, hread]

section
variable {s : List Char} {d : Document} (hd : Document.read? s = some d)

include hd

theorem compiler_lacking {o : CompileOptions} (h : compiler? d = some o) :
    (Lacks 0 "enforce_json_max_size" s → o.enforceJsonMaxSize = false) ∧
    (Lacks 1 "strip_www_prefix" s → o.stripWwwPrefix = true) := by
  obtain ⟨get, hget, henforce, hstrip⟩ := compiler?_eq_some h
  refine ⟨?_, ?_⟩
  · intro hlacks
    rw [hlacks.get_eq_none rfl hd hget] at henforce
    exact (Option.some.inj henforce).symm
  · intro hlacks
    rw [hlacks.get_eq_none rfl hd hget] at hstrip
    exact (Option.some.inj hstrip).symm

theorem collection_lacking {o : CollectionOptions} (h : collection? d = some o) (hlacks : Lacks 0 "id_length" s) :
    o.idLength = 12 := by
  obtain ⟨get, hget, hlength⟩ := collection?_eq_some h
  rw [hlacks.get_eq_none rfl hd hget] at hlength
  exact (Option.some.inj hlength).symm

end

section
variable {ms : List WrittenMember} {o : Options} (h : decode? (.object (ms.map (·.read))) = some o)
  {m : WrittenMember} (hm : m ∈ ms)

include h

theorem compiler_of_absent (hno : ∀ m ∈ ms, m.name? ≠ some "compiler") : o.compiler = ⟨false, true⟩ := by
  obtain ⟨get, hget, hcompiler, _⟩ := decode?_eq_some h
  obtain ⟨_, rfl⟩ := record?_object_eq_some hget
  rw [taken_of_getElem? (i := 0) rfl, given_eq_nil hno] at hcompiler
  exact (Option.some.inj hcompiler).symm

theorem collection_of_absent (hno : ∀ m ∈ ms, m.name? ≠ some "collection") : o.collection = ⟨12⟩ := by
  obtain ⟨get, hget, _, hcollection⟩ := decode?_eq_some h
  obtain ⟨_, rfl⟩ := record?_object_eq_some hget
  rw [taken_of_getElem? (i := 1) rfl, given_eq_nil hno] at hcollection
  exact (Option.some.inj hcollection).symm

include hm

theorem compiler_of_mem (hname : m.name? = some "compiler") : compiler? m.read.2 = some o.compiler := by
  obtain ⟨get, hget, hcompiler, _⟩ := decode?_eq_some h
  obtain ⟨hproper, rfl⟩ := record?_object_eq_some hget
  rwa [hproper.taken_of_mem (i := 0) (List.mem_map_of_mem hm) rfl hname] at hcompiler

theorem collection_of_mem (hname : m.name? = some "collection") :
    collection? m.read.2 = some o.collection := by
  obtain ⟨get, hget, _, hcollection⟩ := decode?_eq_some h
  obtain ⟨hproper, rfl⟩ := record?_object_eq_some hget
  rwa [hproper.taken_of_mem (i := 1) (List.mem_map_of_mem hm) rfl hname] at hcollection

end

theorem defaults_of_decode? {ms : List WrittenMember} {o : Options}
    (h : decode? (.object (ms.map (·.read))) = some o) : Defaults ms o where
  compiler := compiler_of_absent h
  collection := collection_of_absent h
  enforceJsonMaxSize _ hm hname hlacks :=
    (compiler_lacking hlacks.read?_eq (compiler_of_mem h hm hname)).1 hlacks
  stripWwwPrefix _ hm hname hlacks :=
    (compiler_lacking hlacks.read?_eq (compiler_of_mem h hm hname)).2 hlacks
  idLength _ hm hname hlacks := collection_lacking hlacks.read?_eq (collection_of_mem h hm hname) hlacks

/-! ## Ids -/

theorem draw_isAlphanum (n : Nat) : (Secret.draw n).isAlphanum = true := by
  have hall : Secret.alphabet.all Char.isAlphanum = true := by decide
  have hlt : n % Secret.alphabet.length < Secret.alphabet.length := Nat.mod_lt n (by decide)
  unfold Secret.draw
  rw [List.getD_eq_getElem _ _ hlt]
  exact List.all_eq_true.mp hall _ (List.getElem_mem hlt)

theorem toList_newId (c : Collection) (stream : Nat → Nat) :
    (c.newId stream).toList = (List.range c.options.idLength).map fun i => Secret.draw (stream i) :=
  String.toList_ofList

theorem newId_run (o : CollectionOptions) (fields : List StoredField) (edits : List Edit) (stream : Nat → Nat) :
    let id := (run Collection.edit (.ofFields o fields) edits).1.newId stream
    id.length = o.idLength ∧ ∀ c ∈ id.toList, c.isAlphanum = true := by
  have hoptions := (Collection.run_shows (Collection.ordered_ofFields o fields) edits).options
  have hid := toList_newId (run Collection.edit (.ofFields o fields) edits).1 stream
  rw [hoptions] at hid
  refine ⟨?_, ?_⟩
  · rw [← String.length_toList, hid, List.length_map, List.length_range]
    rfl
  · rw [hid, List.forall_mem_map]
    exact fun i _ => draw_isAlphanum (stream i)

/-! ## The theorem -/

/-- Whatever text options are read from, ids have at least one character, and so has every id of a collection
with these options, whatever was done to it before: exactly as many as the options say, all of them letters
and digits. If the text is an object, neither the order of members nor members with other names make a
difference, what is absent has its default, and a name that is no text makes the text unreadable. -/
theorem ofText_stable (s : String) :
    (∀ o, ofText s = .ok o → 1 ≤ o.collection.idLength ∧ ∀ fields edits stream,
      let id := (run Collection.edit (.ofFields o.collection fields) edits).1.newId stream
      id ≠ "" ∧ id.length = o.collection.idLength ∧ ∀ c ∈ id.toList, c.isAlphanum = true) ∧
    ∀ ms, ObjectText ms s.toList →
      (∀ (t : String) ns, ObjectText ns t.toList → Alike ms ns → ofText t = ofText s) ∧
      (∀ o, ofText s = .ok o → Defaults ms o) ∧
      (HoldsIllegible ms → ofText s = .error .notReadable) := by
  refine ⟨?ids, fun ms hs => ⟨?stable, ?defaults, ?illegible⟩⟩
  case ids =>
    intro o ho
    have hpos := idLength_pos ho
    refine ⟨hpos, ?_⟩
    intro fields edits stream
    obtain ⟨hlength, hchars⟩ := newId_run o.collection fields edits stream
    refine ⟨?_, hlength, hchars⟩
    intro hempty
    rw [hempty, String.length_empty] at hlength
    omega
  case stable =>
    intro t ns ht halike
    rw [ofText_object hs, ofText_object ht, decode?_alike halike]
  case defaults =>
    intro o ho
    exact defaults_of_decode? (decode?_of_ofText hs ho)
  case illegible =>
    intro h
    have hnone : decode? (.object (ms.map (·.read))) = none := by
      cases h with
      | here h => exact decode?_illegible h
      | @within m inner hm hname htext h =>
        -- options that are read would have decoded the record with the illegible name
        refine Option.eq_none_iff_forall_ne_some.mpr ?_
        intro o ho
        rcases hname with hname | hname
        · have hcompiler := compiler_of_mem ho hm hname
          rw [read_of_object htext, compiler?_illegible h] at hcompiler
          cases hcompiler
        · have hcollection := collection_of_mem ho hm hname
          rw [read_of_object htext, collection?_illegible h] at hcollection
          cases hcollection
    rw [ofText_object hs, hnone]

theorem ofText_stable_compiler :
    ofText "\x7b\"a\":0,\"compiler\":\x7b\"b\":0\x7d\x7d" = ofText "\x7b\"compiler\":\x7b\x7d\x7d" := by
  let a : WrittenMember := ⟨['a'], ['0']⟩
  let b : WrittenMember := ⟨['b'], ['0']⟩
  let bare : WrittenMember := ⟨['c', 'o', 'm', 'p', 'i', 'l', 'e', 'r'], ['{', '}']⟩
  let holding : WrittenMember := ⟨bare.name, ['{', '"', 'b', '"', ':', '0', '}']⟩
  have written : ∀ (m : WrittenMember), m.name.all isPlain = true → Value m.value →
      MemberText m ([] ++ ('"' :: (m.name ++ ['"']) ++ ([] ++ ':' :: ([] ++ (m.value ++ []))))) :=
    fun _ hname hvalue => .mk space_nil (content_of_plain hname) space_nil space_nil hvalue space_nil
  have hzero : Value ['0'] := .number (.mk (Or.inl rfl) .zero .none .none)
  have hempty : ObjectText [] bare.value := .empty space_nil space_nil space_nil
  have hb : MembersText [b] ['"', 'b', '"', ':', '0'] := .one (written b (by decide) hzero)
  have hholds : ObjectText [b] holding.value := .members space_nil hb space_nil
  have hbare : MembersText [bare] _ := .one (written bare (by decide) (.emptyObject space_nil))
  have hholding : MembersText [a, holding] _ :=
    .cons (written a (by decide) hzero) (.one (written holding (by decide) (.object (members_of_text hb))))
  -- the record is reworded where it stands, then the further member comes in front
  have hreworded : Reworded bare holding :=
    .compiler (by decide) rfl hempty hholds ⟨[b], by simp; decide, .refl _⟩
  have halike : Alike [bare] [a, holding] :=
    ⟨[holding], .cons hreworded .nil, [a], by simp; decide, .refl _⟩
  have hs : ObjectText [bare] "\x7b\"compiler\":\x7b\x7d\x7d".toList := .members space_nil hbare space_nil
  have ht : ObjectText [a, holding] "\x7b\"a\":0,\"compiler\":\x7b\"b\":0\x7d\x7d".toList :=
    .members space_nil hholding space_nil
  exact ((ofText_stable _).2 [bare] hs).1 _ [a, holding] ht halike

/-- A lone surrogate names no text: a member with it is not passed over. -/
theorem surrogate_name_unreadable :
    let m : WrittenMember := ⟨['\\', 'u', 'd', '8', '0', '0'], ['0']⟩
    ObjectText [] "\x7b\x7d".toList ∧ ofText "\x7b\x7d" = .ok {} ∧
      ObjectText [m] "\x7b\"\\ud800\":0\x7d".toList ∧ m.name? = none ∧
      ofText "\x7b\"\\ud800\":0\x7d" = .error .notReadable := by
  intro m
  have hname : Content m.name :=
    .cons (.unit (by decide) (by decide) (by decide) (by decide)) .nil
  have hzero : Value m.value := .number (.mk (Or.inl rfl) .zero .none .none)
  have hmember : MembersText [m] _ := .one (.mk space_nil hname space_nil space_nil hzero space_nil)
  refine ⟨.empty space_nil space_nil space_nil, by decide, ?_, by decide, by decide +kernel⟩
  exact .members space_nil hmember space_nil

end Options

end TableSchema
