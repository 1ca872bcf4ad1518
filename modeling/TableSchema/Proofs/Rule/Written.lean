import TableSchema.Proofs.Calendar.Exact
import TableSchema.Rule.Predicate

/-!
# The written form of predicates

A predicate is written as an object with its name and its parameters. `toJson_tells_apart`: the object determines the
predicate, and so do its members alone, in whatever order they come, as far as clocks show date bounds apart.
-/

namespace TableSchema

/-! ## Values of members -/

namespace Json

theorem ofStrings_inj {items other : List String} (h : ofStrings items = ofStrings other) : items = other :=
  (List.map_inj_right fun _ _ => Json.string.inj).mp (Json.array.inj h)

theorem ofInt_inj {i j : Int} (h : ofInt i = ofInt j) : i = j :=
  Number.int.inj (number.inj h)

/-- Where no value is written as null, options tell apart what the written values tell apart. -/
theorem map_eq_of_ofOption {α β : Type} {f : α → Json} {g : α → β} (hf : ∀ a b, f a = f b → g a = g b)
    (hnull : ∀ a, f a ≠ .null) {a b : Option α} (h : ofOption f a = ofOption f b) : a.map g = b.map g := by
  cases a with
  | none =>
    cases b with
    | none => rfl
    | some b => exact absurd h.symm (hnull b)
  | some a =>
    cases b with
    | none => exact absurd h (hnull a)
    | some b =>
      rw [Option.map_some, Option.map_some, hf a b h]

end Json

namespace Predicate

theorem shown_bound_eq {t u : Option Instant} (h : Json.ofOption dateJson t = Json.ofOption dateJson u) :
    t.map Instant.shown = u.map Instant.shown :=
  Json.map_eq_of_ofOption (fun _ _ h => (Instant.text_exact_eq_iff _ _).mp (Json.string.inj h))
    (fun _ => Json.noConfusion) h

theorem size_inj {m n : Option Nat}
    (h : Json.ofOption (fun k : Int => Json.ofInt k) m = Json.ofOption (fun k : Int => Json.ofInt k) n) : m = n := by
  have hint := Json.map_eq_of_ofOption (fun _ _ => Json.ofInt_inj) (fun _ => Json.noConfusion) h
  rw [Option.map_id', Option.map_id'] at hint
  cases m with
  | none =>
    cases n with
    | none => rfl
    | some n => cases hint
  | some m =>
    cases n with
    | none => cases hint
    | some n => rw [Int.ofNat.inj (Option.some.inj hint)]

theorem domains_eq {s t : DomainSpecs} (hallowed : Json.ofStrings s.allowedDomains = .ofStrings t.allowedDomains)
    (hexcept : Json.ofStrings s.exceptDomains = .ofStrings t.exceptDomains)
    (hempty : Json.bool s.mayBeEmpty = .bool t.mayBeEmpty) : s = t := by
  cases s
  cases t
  rw [DomainSpecs.mk.injEq]
  exact ⟨Json.ofStrings_inj hallowed, Json.ofStrings_inj hexcept, Json.bool.inj hempty⟩

/-! ## Date bounds -/

def bounds : Predicate → List Instant
  | dateRange min max => min.toList ++ max.toList
  | _ => []

/-- The predicate with its date bounds as clocks show them. -/
def shown : Predicate → Predicate
  | dateRange min max => dateRange (min.map Instant.shown) (max.map Instant.shown)
  | p => p

theorem map_shown_of_regular {bound : Option Instant} (h : ∀ t ∈ bound.toList, t.Regular) :
    bound.map Instant.shown = bound := by
  cases bound with
  | none => rfl
  | some t => rw [Option.map_some, Instant.shown_of_regular (h t (List.mem_singleton_self t))]

theorem shown_of_regular {p : Predicate} (h : ∀ t ∈ p.bounds, t.Regular) : p.shown = p := by
  cases p with
  | dateRange min max =>
    unfold shown
    simp only
    rw [map_shown_of_regular fun t ht => h t (List.mem_append_left _ ht),
      map_shown_of_regular fun t ht => h t (List.mem_append_right _ ht)]
  | _ => rfl

theorem ofOption_shown (bound : Option Instant) :
    Json.ofOption dateJson (bound.map Instant.shown) = .ofOption dateJson bound := by
  cases bound with
  | none => rfl
  | some t => exact congrArg Json.string (t.text_shown .exact)

theorem toJson_shown (p : Predicate) : p.shown.toJson = p.toJson := by
  cases p with
  | dateRange min max =>
    unfold toJson shown parameters
    simp only [ofOption_shown]
    rfl
  | _ => rfl

/-! ## Members -/

theorem shown_eq_of_get?_toJson {a b : Predicate} (h : ∀ member, a.toJson.get? member = b.toJson.get? member) :
    a.shown = b.shown := by
  have hmember : ∀ member v w, a.toJson.get? member = some v → b.toJson.get? member = some w → v = w := by
    intro member v w hv hw
    rw [h, hw] at hv
    exact (Option.some.inj hv).symm
  have hname : a.name = b.name := Json.string.inj (hmember "name" _ _ rfl rfl)
  cases a <;> cases b
  case pattern.pattern => rw [Json.string.inj (hmember "pattern" _ _ rfl rfl)]
  case dateRange.dateRange =>
    unfold shown
    simp only
    rw [shown_bound_eq (hmember "min" _ _ rfl rfl), shown_bound_eq (hmember "max" _ _ rfl rfl)]
  case email.email =>
    rw [domains_eq (hmember "allowedDomains" _ _ rfl rfl) (hmember "exceptDomains" _ _ rfl rfl)
      (hmember "mayBeEmpty" _ _ rfl rfl)]
  case url.url =>
    rw [domains_eq (hmember "allowedDomains" _ _ rfl rfl) (hmember "exceptDomains" _ _ rfl rfl)
      (hmember "mayBeEmpty" _ _ rfl rfl), Json.bool.inj (hmember "stripWww" _ _ rfl rfl)]
  case json.json m n => rw [@size_inj m n (hmember "maxSize" _ _ rfl rfl)]
  case recordId.recordId => rw [Json.bool.inj (hmember "allowEmpty" _ _ rfl rfl)]
  case recordIdList.recordIdList => rfl
  -- no two kinds share a name
  all_goals simp [name] at hname

theorem toJson_eq_iff (a b : Predicate) : a.toJson = b.toJson ↔ a.shown = b.shown := by
  apply Iff.intro
  · intro h
    apply shown_eq_of_get?_toJson
    intro member
    rw [h]
  · intro h
    rw [← a.toJson_shown, ← b.toJson_shown, h]

theorem get?_toJson_eq_iff (a b : Predicate) :
    (∀ member, a.toJson.get? member = b.toJson.get? member) ↔ a.shown = b.shown := by
  apply Iff.intro
  · exact shown_eq_of_get?_toJson
  · intro h member
    rw [(toJson_eq_iff a b).mpr h]

/-- Predicates are written as equal objects, and as objects with equal members, exactly if they show the same. Where
all leap seconds among their date bounds end a minute, this is when they are equal; texts and numbers are read as no
other leap seconds. -/
theorem toJson_tells_apart (a b : Predicate) :
    (a.toJson = b.toJson ↔ a.shown = b.shown) ∧
    ((∀ member, a.toJson.get? member = b.toJson.get? member) ↔ a.shown = b.shown) ∧
    ((∀ t ∈ a.bounds ++ b.bounds, t.Regular) → ((a == b) = true ↔ a.toJson = b.toJson) ∧
      ((a == b) = true ↔ ∀ member, a.toJson.get? member = b.toJson.get? member)) ∧
    ∀ v t, Instant.ofJson? v = some t → t.Regular := by
  refine ⟨toJson_eq_iff a b, get?_toJson_eq_iff a b, ?_, fun _ _ => Instant.regular_of_ofJson?⟩
  intro h
  obtain ⟨ha, hb⟩ := List.forall_mem_append.mp h
  rw [beq_iff_eq, toJson_eq_iff, get?_toJson_eq_iff, shown_of_regular ha, shown_of_regular hb]
  exact ⟨Iff.rfl, Iff.rfl⟩

/-- A leap second at the end of a day is written otherwise than the second that follows. -/
theorem toJson_tells_apart_midnight :
    (∀ t ∈ (dateRange (some ⟨86399, 1500000000, by decide⟩) none).bounds ++
      (dateRange (some ⟨86400, 500000000, by decide⟩) none).bounds, t.Regular) ∧
    (dateRange (some ⟨86399, 1500000000, by decide⟩) none).toJson ≠
      (dateRange (some ⟨86400, 500000000, by decide⟩) none).toJson := by
  have hregular : ∀ t ∈ (dateRange (some ⟨86399, 1500000000, by decide⟩) none).bounds ++
      (dateRange (some ⟨86400, 500000000, by decide⟩) none).bounds, t.Regular := by decide
  have hwritten := ((toJson_tells_apart _ _).2.2.1 hregular).1
  refine ⟨hregular, ?_⟩
  intro h
  exact absurd (hwritten.mpr h) (by decide)

/-- A leap second behind the fourth second of a minute is written as the fifth one, though they are different
bounds. -/
theorem toJson_of_leap_within_minute :
    (dateRange (some ⟨43204, 1333333333, by decide⟩) none ==
      dateRange (some ⟨43205, 333333333, by decide⟩) none) = false ∧
    (dateRange (some ⟨43204, 1333333333, by decide⟩) none).toJson =
      (dateRange (some ⟨43205, 333333333, by decide⟩) none).toJson := by
  have hshown : (dateRange (some ⟨43204, 1333333333, by decide⟩) none).shown =
      dateRange (some ⟨43205, 333333333, by decide⟩) none := by decide
  refine ⟨by decide, ?_⟩
  rw [← hshown, toJson_shown]

end Predicate

end TableSchema
