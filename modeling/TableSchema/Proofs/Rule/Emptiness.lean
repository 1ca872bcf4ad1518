import TableSchema.Proofs.Rule.Compile
import TableSchema.Proofs.Specs.Stored

/-!
# Empty values

A rule set says in up to three places whether a value may be empty: in the value that is forbidden, in the
list of choices and in the predicate. `rules_follow`: for specs that have been read, all three say what the
specs say.
-/

namespace TableSchema

/-- The empty value of a type, for types that have one of their own. -/
def ValueType.empty? : ValueType → Option Json
  | string => some (.string "")
  | date => some .null
  | _ => none

def Specs.mayBeEmpty? : Specs → Option Bool
  | boolean _ => none
  | string s => some s.mayBeEmpty
  | number s => some s.mayBeEmpty
  | date s => some s.mayBeEmpty
  | email s => some s.mayBeEmpty
  | json s => some s.mayBeEmpty
  | select s => some s.mayBeEmpty
  | url s => some s.mayBeEmpty
  | relation s => some s.mayBeEmpty

namespace RuleSet

def isNot (s : RuleSet) : Option Json :=
  s.rules.bind (·.isNot)

def oneOf (s : RuleSet) : Option (List String) :=
  s.rules.bind (·.oneOf)

theorem isNot_ofRules (type : ValueType) (r : Rules) : (ofRules type r).isNot = r.isNot :=
  bind_ofRules type fun h => by simp_all [Rules.isEmpty]

theorem oneOf_ofRules (type : ValueType) (r : Rules) : (ofRules type r).oneOf = r.oneOf :=
  bind_ofRules type fun h => by simp_all [Rules.isEmpty]

end RuleSet

/-! ## Predicates -/

namespace Predicate

/-- The predicate itself tells whether a value may be empty. The others leave that to the static rules. -/
def decidesEmpty : Predicate → Bool
  | email _ => true
  | url _ _ => true
  | recordId _ => true
  | _ => false

/-- The predicate passes an empty value where a value may be empty. Where it may not, it rejects the value if
it is one that decides this. -/
structure Follows (p : Predicate) (mayBeEmpty : Bool) (e : Json) : Prop where
  pass : mayBeEmpty = true → p.check e = .pass
  reject : mayBeEmpty = false → p.decidesEmpty = true → ∃ reason, p.check e = .reject reason

theorem follows_of_pass {p : Predicate} {e : Json} (hpass : p.check e = .pass) (hno : p.decidesEmpty = false)
    (mayBeEmpty : Bool) : p.Follows mayBeEmpty e := by
  refine ⟨fun _ => hpass, ?_⟩
  intro _ hyes
  rw [hno] at hyes
  cases hyes

theorem follows_of_require {p : Predicate} {e : Json} {mayBeEmpty : Bool} (reason : Rejection)
    (h : p.check e = .require mayBeEmpty reason) : p.Follows mayBeEmpty e := by
  refine ⟨?_, ?_⟩
  · intro hempty
    rw [h, hempty]
    rfl
  · intro hempty _
    rw [h, hempty]
    exact ⟨reason, rfl⟩

theorem pattern_follows {source : String} (h : (Pattern.read? source).isSome = true) (mayBeEmpty : Bool) :
    (pattern source).Follows mayBeEmpty (.string "") := by
  obtain ⟨p, hp⟩ := Option.isSome_iff_exists.mp h
  have hcheck : (pattern source).check (.string "") = .pass := by
    simp only [check, checkPattern, hp]
    rfl
  exact follows_of_pass hcheck rfl mayBeEmpty

theorem dateRange_follows (min max : Option Instant) (mayBeEmpty : Bool) :
    (dateRange min max).Follows mayBeEmpty .null :=
  follows_of_pass rfl rfl mayBeEmpty

theorem json_follows (maxSize : Option Nat) (mayBeEmpty : Bool) : (json maxSize).Follows mayBeEmpty (.string "") :=
  follows_of_pass rfl rfl mayBeEmpty

theorem email_follows (s : DomainSpecs) : (ofEmailSpecs s).Follows s.mayBeEmpty (.string "") :=
  follows_of_require .invalidEmail rfl

theorem url_follows (s : DomainSpecs) (strip : Bool) : (ofUrlSpecs s strip).Follows s.mayBeEmpty (.string "") :=
  follows_of_require .invalidUrl rfl

theorem recordId_follows (allowEmpty : Bool) : (recordId allowEmpty).Follows allowEmpty (.string "") := by
  have hid : isRecordId "" = false := by decide
  have hcheck : (recordId allowEmpty).check (.string "") = .require allowEmpty .invalidId := by
    simp [check, checkRecordId, hid]
  exact follows_of_require .invalidId hcheck

end Predicate

/-! ## Rule sets -/

/-- All places of a rule set agree on whether the value `e` is allowed to stand for nothing. -/
structure RuleSet.Follows (r : RuleSet) (mayBeEmpty : Bool) (e : Json) : Prop where
  isNot_eq : r.isNot = if mayBeEmpty then none else some e
  mem_oneOf_iff : ∀ values, r.oneOf = some values → (e ∈ values.map Json.string ↔ mayBeEmpty = true)
  custom : ∀ p, r.custom = some p → p.Follows mayBeEmpty e

theorem RuleSet.follows_ofRules (type : ValueType) {r : Rules} {mayBeEmpty : Bool} {e : Json}
    (hisNot : r.isNot = if mayBeEmpty then none else some e)
    (honeOf : ∀ values, r.oneOf = some values → (e ∈ values.map Json.string ↔ mayBeEmpty = true))
    (hcustom : ∀ p, r.custom = some p → p.Follows mayBeEmpty e) : (ofRules type r).Follows mayBeEmpty e where
  isNot_eq := (isNot_ofRules type r).trans hisNot
  mem_oneOf_iff := by
    rw [oneOf_ofRules]
    exact honeOf
  custom := by
    rw [custom_ofRules]
    exact hcustom

namespace Compile

theorem of_provided {α : Type} {b : Bool} {a a' : α} (h : provided b a = some a') : a' = a := by
  unfold provided at h
  cases b with
  | false => cases h
  | true => exact (Option.some.inj h).symm

theorem mem_singleChoice (mayBeEmpty : Bool) (values : List String) (v : String) :
    v ∈ singleChoice mayBeEmpty values ↔ if mayBeEmpty then v ∈ values ∨ v = "" else v ∈ values ∧ v ≠ "" := by
  unfold singleChoice
  cases mayBeEmpty with
  | false => simp
  | true =>
    by_cases hempty : "" ∈ values
    · simp only [List.contains_iff_mem.mpr hempty, if_true]
      exact (or_iff_left_of_imp fun hv => hv ▸ hempty).symm
    · simp [hempty]

theorem mem_singleChoice_iff (mayBeEmpty : Bool) (values : List String) :
    Json.string "" ∈ (singleChoice mayBeEmpty values).map Json.string ↔ mayBeEmpty = true := by
  cases mayBeEmpty <;> simp [mem_singleChoice]

theorem stringRules_follow {s : StringSpecs} (h : (Specs.string s).Sound) :
    (stringRules s).Follows s.mayBeEmpty (.string "") := by
  refine RuleSet.follows_ofRules _ rfl (fun _ hnone => nomatch hnone) ?_
  intro p hp
  obtain ⟨source, hsource, rfl⟩ := Option.map_eq_some_iff.mp hp
  exact Predicate.pattern_follows (h source hsource) s.mayBeEmpty

theorem dateRules_follow (s : DateSpecs) : (dateRules s).Follows s.mayBeEmpty .null := by
  refine RuleSet.follows_ofRules _ ?_ (fun _ hnone => nomatch hnone) ?_
  · cases s.mayBeEmpty with
    | false => rfl
    | true => rfl
  · intro p hp
    rw [of_provided hp]
    exact Predicate.dateRange_follows s.min s.max s.mayBeEmpty

theorem emailRules_follow (s : DomainSpecs) : (emailRules s).Follows s.mayBeEmpty (.string "") := by
  refine RuleSet.follows_ofRules _ rfl (fun _ hnone => nomatch hnone) ?_
  intro p hp
  rw [of_provided hp]
  exact Predicate.email_follows s

theorem jsonRules_follow (o : CompileOptions) (s : JsonSpecs) :
    (jsonRules o s).Follows s.mayBeEmpty (.string "") := by
  refine RuleSet.follows_ofRules _ rfl (fun _ hnone => nomatch hnone) ?_
  intro p hp
  rw [← Option.some.inj hp]
  exact Predicate.json_follows _ s.mayBeEmpty

theorem urlRules_follow (o : CompileOptions) (s : DomainSpecs) :
    (urlRules o s).Follows s.mayBeEmpty (.string "") := by
  refine RuleSet.follows_ofRules _ rfl (fun _ hnone => nomatch hnone) ?_
  intro p hp
  rw [of_provided hp]
  exact Predicate.url_follows s o.stripWwwPrefix

theorem selectRules_follow {s : SelectSpecs} {e : Json} (he : (selectRules s).type.empty? = some e) :
    (selectRules s).Follows s.mayBeEmpty e := by
  unfold selectRules at he ⊢
  cases hmultiple : s.multiple with
  | true =>
    rw [hmultiple] at he
    cases he
  | false =>
    rw [hmultiple] at he
    cases he
    refine RuleSet.follows_ofRules _ rfl ?_ (fun _ hnone => nomatch hnone)
    intro values hvalues
    rw [← Option.some.inj hvalues]
    exact mem_singleChoice_iff s.mayBeEmpty _

theorem relationRules_follow {s : RelationSpecs} {e : Json} (he : (relationRules s).type.empty? = some e) :
    (relationRules s).Follows s.mayBeEmpty e := by
  unfold relationRules at he ⊢
  cases hmultiple : s.multiple with
  | true =>
    rw [hmultiple] at he
    cases he
  | false =>
    rw [hmultiple] at he
    cases he
    refine RuleSet.follows_ofRules _ rfl (fun _ hnone => nomatch hnone) ?_
    intro p hp
    rw [← Option.some.inj hp]
    exact Predicate.recordId_follows s.mayBeEmpty

end Compile

namespace Specs

theorem rules_follow_of_sound {s : Specs} (h : s.Sound) (o : CompileOptions) {e : Json}
    (he : (s.rules o).type.empty? = some e) :
    ∃ mayBeEmpty, s.mayBeEmpty? = some mayBeEmpty ∧ (s.rules o).Follows mayBeEmpty e := by
  cases s with
  | boolean s => cases he
  | string s =>
    cases he
    exact ⟨_, rfl, Compile.stringRules_follow h⟩
  | number s => cases he
  | date s =>
    cases he
    exact ⟨_, rfl, Compile.dateRules_follow s⟩
  | email s =>
    cases he
    exact ⟨_, rfl, Compile.emailRules_follow s⟩
  | json s =>
    cases he
    exact ⟨_, rfl, Compile.jsonRules_follow o s⟩
  | select s => exact ⟨_, rfl, Compile.selectRules_follow he⟩
  | url s =>
    cases he
    exact ⟨_, rfl, Compile.urlRules_follow o s⟩
  | relation s => exact ⟨_, rfl, Compile.relationRules_follow he⟩

/-- Where values are texts or dates, the rules of specs that have been read agree on empty values. If a value
may be empty, nothing forbids the empty value, choices offer it and the predicate passes it. If it may not, the
empty value is what is forbidden, choices do not offer it, and a predicate that decides this rejects it. -/
theorem rules_follow {t : FieldType} {v : Json} {s : Specs} (hread : ofPartial t v = .ok s ∨ ofJson t v = .ok s)
    (o : CompileOptions) {e : Json} (he : (s.rules o).type.empty? = some e) :
    ∃ mayBeEmpty, s.mayBeEmpty? = some mayBeEmpty ∧ (s.rules o).Follows mayBeEmpty e := by
  have hsound : s.Sound := by
    rcases hread with h | h
    · obtain ⟨_, hjson⟩ := ofJson_of_ofPartial h
      exact sound_of_ofJson hjson
    · exact sound_of_ofJson h
  exact rules_follow_of_sound hsound o he

theorem rules_follow_code :
    ofPartial .string (.object [("pattern", .string "^a"), ("mayBeEmpty", .bool false)]) =
      .ok (.string { mayBeEmpty := false, pattern := some "^a" }) ∧
    ∃ mayBeEmpty, (Specs.string { mayBeEmpty := false, pattern := some "^a" }).mayBeEmpty? = some mayBeEmpty ∧
      ((Specs.string { mayBeEmpty := false, pattern := some "^a" }).rules {}).Follows mayBeEmpty (.string "") := by
  have hread : ofPartial .string (.object [("pattern", .string "^a"), ("mayBeEmpty", .bool false)]) =
      .ok (.string { mayBeEmpty := false, pattern := some "^a" }) := by decide +kernel
  exact ⟨hread, rules_follow (Or.inl hread) {} rfl⟩

end Specs

end TableSchema
