import TableSchema.Options
import TableSchema.Proofs.Json.Members
import TableSchema.Proofs.Repetitions

/-!
# Records of options

What a record takes from an object depends on its members only through the values that come under each name
it knows, and through whether all names are text. So members may come in any order, members it does not know
may come at all, and the value of a member may be any that is read alike.
-/

namespace TableSchema

namespace Options

def nameOf? (m : List Piece × Document) : Option String :=
  (textOf m.1).map String.ofList

/-- The values that come under a name. -/
def given (name : String) (ms : List (List Piece × Document)) : List Document :=
  (ms.filter (nameOf? · == some name)).map (·.2)

/-! ## Names -/

theorem namedMembers?_cons (m : List Piece × Document) (ms : List (List Piece × Document)) :
    namedMembers? (m :: ms) =
      (nameOf? m).bind fun name => (namedMembers? ms).map fun named => (name, m.2) :: named := by
  unfold namedMembers? nameOf?
  rw [List.mapM_cons]
  cases textOf m.1 with
  | none => rfl
  | some name => exact (Option.map_eq_bind ..).symm

theorem namedMembers?_eq_none_iff (ms : List (List Piece × Document)) :
    namedMembers? ms = none ↔ ∃ m ∈ ms, nameOf? m = none := by
  induction ms with
  | nil => simp [namedMembers?]
  | cons m ms ih =>
    rw [namedMembers?_cons]
    cases hname : nameOf? m with
    | none => simp [hname]
    | some name => simp [hname, ih]

theorem values_namedMembers? {ms : List (List Piece × Document)} {named : List (String × Document)}
    (h : namedMembers? ms = some named) (name : String) :
    (named.filter (·.1 == name)).map (·.2) = given name ms := by
  induction ms generalizing named with
  | nil =>
    cases h
    rfl
  | cons m ms ih =>
    rw [namedMembers?_cons] at h
    obtain ⟨name', hname, h⟩ := Option.bind_eq_some_iff.mp h
    obtain ⟨rest, hrest, rfl⟩ := Option.map_eq_some_iff.mp h
    have ih := ih hrest
    unfold given at ih ⊢
    by_cases heq : name' = name
    · simp [hname, heq, ih]
    · simp [hname, heq, ih]

theorem lookup_eq_head? (name : String) (named : List (String × Document)) :
    named.lookup name = ((named.filter (·.1 == name)).map (·.2)).head? := by
  induction named with
  | nil => rfl
  | cons m rest ih =>
    rw [lookup_cons_eq_ite]
    by_cases heq : name = m.1
    · simp [heq]
    · rw [if_neg heq, List.filter_cons_of_neg (by simpa using Ne.symm heq), ih]

/-! ## What a record takes -/

/-- All names are text, and none that the record knows comes twice. -/
structure Proper (names : List String) (ms : List (List Piece × Document)) : Prop where
  legible : ∀ m ∈ ms, nameOf? m ≠ none
  once : ∀ name ∈ names, (given name ms).length ≤ 1

def taken (names : List String) (ms : List (List Piece × Document)) (i : Nat) : Option Document :=
  names[i]?.bind fun name => (given name ms).head?

section
variable {names : List String} {ms : List (List Piece × Document)}

theorem record?_of_proper (h : Proper names ms) : record? names (.object ms) = some (taken names ms) := by
  have hlegible : namedMembers? ms ≠ none := by
    rw [ne_eq, namedMembers?_eq_none_iff]
    rintro ⟨m, hm, hname⟩
    exact h.legible m hm hname
  obtain ⟨named, hnamed⟩ := Option.ne_none_iff_exists'.mp hlegible
  have hvalues := values_namedMembers? hnamed
  have honce : names.all (fun name => (named.filter (·.1 == name)).length ≤ 1) = true := by
    rw [List.all_eq_true]
    intro name hname
    have := h.once name hname
    rw [← hvalues, List.length_map] at this
    exact decide_eq_true this
  simp only [record?, hnamed, Option.bind_eq_bind, Option.bind_some, if_pos honce, lookup_eq_head?, hvalues]
  rfl

theorem record?_of_not_proper (h : ¬ Proper names ms) : record? names (.object ms) = none := by
  cases hnamed : namedMembers? ms with
  | none => simp only [record?, hnamed, Option.bind_eq_bind, Option.bind_none]
  | some named =>
    have hvalues := values_namedMembers? hnamed
    have hmany : ¬ names.all (fun name => (named.filter (·.1 == name)).length ≤ 1) = true := by
      rw [List.all_eq_true]
      intro honce
      refine h ⟨?_, ?_⟩
      · intro m hm hname
        rw [(namedMembers?_eq_none_iff ms).mpr ⟨m, hm, hname⟩] at hnamed
        cases hnamed
      · intro name hname
        rw [← hvalues, List.length_map]
        exact of_decide_eq_true (honce name hname)
    simp only [record?, hnamed, Option.bind_eq_bind, Option.bind_some, if_neg hmany]

theorem record?_object_eq_some {get : Nat → Option Document} (h : record? names (.object ms) = some get) :
    Proper names ms ∧ get = taken names ms := by
  by_cases hproper : Proper names ms
  · rw [record?_of_proper hproper] at h
    cases h
    exact ⟨hproper, rfl⟩
  · rw [record?_of_not_proper hproper] at h
    cases h

theorem taken_of_getElem? {i : Nat} {name : String} (hi : names[i]? = some name) :
    taken names ms i = (given name ms).head? := by
  unfold taken
  rw [hi]
  rfl

theorem Proper.taken_of_mem (h : Proper names ms) {m : List Piece × Document} (hm : m ∈ ms) {i : Nat}
    {name : String} (hi : names[i]? = some name) (hname : nameOf? m = some name) :
    taken names ms i = some m.2 := by
  have hmem : m.2 ∈ given name ms :=
    List.mem_map_of_mem (List.mem_filter.mpr ⟨hm, beq_iff_eq.mpr hname⟩)
  have honce := h.once name (List.mem_of_getElem? hi)
  rw [taken_of_getElem? hi]
  cases hgiven : given name ms with
  | nil =>
    rw [hgiven] at hmem
    cases hmem
  | cons d rest =>
    rw [hgiven] at hmem honce
    have hrest : rest = [] := List.eq_nil_of_length_eq_zero (by simpa using honce)
    rw [hrest, List.mem_singleton] at hmem
    rw [hmem]
    rfl

end

/-! ## Objects that are read alike -/

/-- What `read` makes of the values under a name, up to order. -/
def GivenAlike {α : Type} (read : Document → α) (name : String) (ms ns : List (List Piece × Document)) : Prop :=
  ((given name ms).map read).Perm ((given name ns).map read)

theorem GivenAlike.length_given {α : Type} {read : Document → α} {name : String}
    {ms ns : List (List Piece × Document)} (h : GivenAlike read name ms ns) :
    (given name ms).length = (given name ns).length := by
  have hlen : ((given name ms).map read).length = ((given name ns).map read).length := List.Perm.length_eq h
  rwa [List.length_map, List.length_map] at hlen

theorem head?_of_perm {α : Type} {as bs : List α} (h : as.Perm bs) (hlen : as.length ≤ 1) :
    as.head? = bs.head? := by
  match as, hlen with
  | [], _ => rw [h.nil_eq]
  | [a], _ => rw [h.singleton_eq]

theorem member_head? {α : Type} (absent : α) (read : Document → Option α) (ds : List Document) :
    member absent read ds.head? = (ds.map read).head?.getD (some absent) := by
  cases ds with
  | nil => rfl
  | cons d ds => rfl

theorem Proper.member_eq {names : List String} {ms ns : List (List Piece × Document)} (h : Proper names ms)
    {i : Nat} {name : String} (hi : names[i]? = some name) {α : Type} {read : Document → Option α}
    (halike : GivenAlike read name ms ns) (absent : α) :
    member absent read (taken names ms i) = member absent read (taken names ns i) := by
  have honce := h.once name (List.mem_of_getElem? hi)
  rw [taken_of_getElem? hi, taken_of_getElem? hi, member_head?, member_head?,
    head?_of_perm halike (by rwa [List.length_map])]

theorem proper_iff_of_alike {names : List String} {ms ns : List (List Piece × Document)}
    (hlegible : (∀ m ∈ ms, nameOf? m ≠ none) ↔ ∀ m ∈ ns, nameOf? m ≠ none)
    (hlen : ∀ name ∈ names, (given name ms).length = (given name ns).length) :
    Proper names ms ↔ Proper names ns := by
  apply Iff.intro
  · intro h
    exact ⟨hlegible.mp h.legible, fun name hname => hlen name hname ▸ h.once name hname⟩
  · intro h
    exact ⟨hlegible.mpr h.legible, fun name hname => (hlen name hname).symm ▸ h.once name hname⟩

theorem record?_congr {names : List String} {ms ns : List (List Piece × Document)}
    (hproper : Proper names ms ↔ Proper names ns) {α : Type} {make : (Nat → Option Document) → Option α}
    (hmake : Proper names ms → make (taken names ms) = make (taken names ns)) :
    (record? names (.object ms)).bind make = (record? names (.object ns)).bind make := by
  by_cases h : Proper names ms
  · rw [record?_of_proper h, record?_of_proper (hproper.mp h)]
    exact hmake h
  · rw [record?_of_not_proper h, record?_of_not_proper (mt hproper.mpr h)]

/-! ## What makes options -/

theorem compiler?_eq_some {d : Document} {o : CompileOptions} (h : compiler? d = some o) :
    ∃ get, record? ["enforce_json_max_size", "strip_www_prefix"] d = some get ∧
      member false flag? (get 0) = some o.enforceJsonMaxSize ∧
      member true flag? (get 1) = some o.stripWwwPrefix := by
  simp only [compiler?, Option.bind_eq_bind, Option.bind_eq_some_iff] at h
  obtain ⟨get, hget, b, hb, c, hc, heq⟩ := h
  cases heq
  exact ⟨get, hget, hb, hc⟩

theorem collection?_eq_some {d : Document} {o : CollectionOptions} (h : collection? d = some o) :
    ∃ get, record? ["id_length"] d = some get ∧ member 12 count? (get 0) = some o.idLength := by
  simp only [collection?, Option.bind_eq_bind, Option.bind_eq_some_iff] at h
  obtain ⟨get, hget, n, hn, heq⟩ := h
  cases heq
  exact ⟨get, hget, hn⟩

theorem decode?_eq_some {d : Document} {o : Options} (h : decode? d = some o) :
    ∃ get, record? ["compiler", "collection"] d = some get ∧
      member {} compiler? (get 0) = some o.compiler ∧ member {} collection? (get 1) = some o.collection := by
  simp only [decode?, Option.bind_eq_bind, Option.bind_eq_some_iff] at h
  obtain ⟨get, hget, c, hc, l, hl, heq⟩ := h
  cases heq
  exact ⟨get, hget, hc, hl⟩

end Options

end TableSchema
