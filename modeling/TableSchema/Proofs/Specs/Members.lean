import TableSchema.Proofs.Specs.Stored

/-!
# Specs as the values of their members

The members of specs have values that do not depend on the field type but on their slots only.
`decodeMembers?_object_iff`: specs are decoded from an object exactly if each of their members has the
value that its slot reads there, or the default if the object has no such member.
-/

namespace TableSchema

inductive MemberValue where
  | bool (b : Bool)
  | string (s : String)
  | number (x : Option Double)
  | size (x : Double)
  | pattern (source : Option String)
  | date (t : Option Instant)
  | strings (items : List String)
deriving DecidableEq, Repr

def Slot.read? : Slot → Json → Option MemberValue
  | bool, v => v.bool?.map .bool
  | string, v => v.string?.map .string
  | numberOrNull, v => (Json.nullOr Json.double? v).map .number
  | nonNegativeNumber, v => v.double?.map .size
  | patternOrNull, v => (Json.nullOr Json.string? v).map .pattern
  | dateOrNull, v => (Json.nullOr Instant.ofJson? v).map .date
  | strings, v => v.strings?.map .strings

namespace Specs

def domainValues (s : DomainSpecs) : List (String × MemberValue) := [
  ("allowedDomains", .strings s.allowedDomains),
  ("exceptDomains", .strings s.exceptDomains),
  ("mayBeEmpty", .bool s.mayBeEmpty)]

def values : Specs → List (String × MemberValue)
  | boolean s => [("onlyTrue", .bool s.onlyTrue)]
  | string s => [
    ("lengthMin", .number s.lengthMin),
    ("lengthMax", .number s.lengthMax),
    ("mayBeEmpty", .bool s.mayBeEmpty),
    ("pattern", .pattern s.pattern)]
  | number s => [("min", .number s.min), ("max", .number s.max), ("mayBeEmpty", .bool s.mayBeEmpty)]
  | date s => [("min", .date s.min), ("max", .date s.max), ("mayBeEmpty", .bool s.mayBeEmpty)]
  | email s => domainValues s
  | json s => [("maxSize", .size s.maxSize), ("mayBeEmpty", .bool s.mayBeEmpty)]
  | select s => [
    ("allowedValues", .strings s.allowedValues),
    ("multiple", .bool s.multiple),
    ("mayBeEmpty", .bool s.mayBeEmpty)]
  | url s => domainValues s
  | relation s => [
    ("collection", .string s.collection),
    ("multiple", .bool s.multiple),
    ("mayBeEmpty", .bool s.mayBeEmpty)]

def value? (s : Specs) (name : String) : Option MemberValue :=
  s.values.lookup name

end Specs

/-- The value of a declared member in an object: as its slot reads it, or the default. -/
def FieldType.valueIn? (t : FieldType) (members : List (String × Json)) (d : Declared) : Option MemberValue :=
  match members.lookup d.name with
  | some w => d.slot.read? w
  | none => (Specs.default t).value? d.name

/-! ## Slots and readers of members -/

/-- A slot reads what a reader reads, under a tag that tells values apart. -/
structure Slot.Reads {α : Type} (slot : Slot) (read : Json → Option α) (tag : α → MemberValue) : Prop where
  tag_inj : ∀ a b, tag a = tag b → a = b
  read?_eq : ∀ v, slot.read? v = (read v).map tag

namespace Slot

theorem bool_reads : bool.Reads Json.bool? .bool :=
  ⟨fun _ _ => MemberValue.bool.inj, fun _ => rfl⟩

theorem string_reads : string.Reads Json.string? .string :=
  ⟨fun _ _ => MemberValue.string.inj, fun _ => rfl⟩

theorem number_reads : numberOrNull.Reads (Json.nullOr Json.double?) .number :=
  ⟨fun _ _ => MemberValue.number.inj, fun _ => rfl⟩

theorem size_reads : nonNegativeNumber.Reads Json.double? .size :=
  ⟨fun _ _ => MemberValue.size.inj, fun _ => rfl⟩

theorem pattern_reads : patternOrNull.Reads (Json.nullOr Json.string?) .pattern :=
  ⟨fun _ _ => MemberValue.pattern.inj, fun _ => rfl⟩

theorem date_reads : dateOrNull.Reads (Json.nullOr Instant.ofJson?) .date :=
  ⟨fun _ _ => MemberValue.date.inj, fun _ => rfl⟩

theorem strings_reads : strings.Reads Json.strings? .strings :=
  ⟨fun _ _ => MemberValue.strings.inj, fun _ => rfl⟩

end Slot

section
variable {α : Type} {t : FieldType} {slot : Slot} {read : Json → Option α} {tag : α → MemberValue}

theorem readMember_iff (h : slot.Reads read tag) (members : List (String × Json)) (position : Nat)
    (name : String) (required : Bool) (absent a : α)
    (hdefault : (Specs.default t).value? name = some (tag absent)) :
    (Json.object members).readMember position name absent read = some a ↔
      some (tag a) = t.valueIn? members ⟨name, slot, required⟩ := by
  have htag : ∀ b, b = a ↔ tag a = tag b := fun b => ⟨fun hb => by rw [hb], fun hb => (h.tag_inj a b hb).symm⟩
  unfold FieldType.valueIn?
  rw [readMember_object]
  cases members.lookup name with
  | none => simp only [hdefault, Option.some.injEq, htag]
  | some w =>
    simp only [h.read?_eq]
    cases read w with
    | none => simp
    | some b => simp only [Option.map_some, Option.some.injEq, htag]

end

/-! ## Decoding -/

theorem bind_three_iff {α β γ σ : Type} (make : α → β → γ → σ)
    (hmake : ∀ a b c a' b' c', make a b c = make a' b' c' → a = a' ∧ b = b' ∧ c = c')
    {x : Option α} {y : Option β} {z : Option γ} (a : α) (b : β) (c : γ) :
    (do return make (← x) (← y) (← z)) = some (make a b c) ↔ x = some a ∧ y = some b ∧ z = some c := by
  simp only [Option.bind_eq_bind, Option.bind_eq_some_iff, Option.pure_def, Option.some.injEq]
  apply Iff.intro
  · intro h
    obtain ⟨a', ha, b', hb, c', hc, heq⟩ := h
    obtain ⟨rfl, rfl, rfl⟩ := hmake _ _ _ _ _ _ heq
    exact ⟨ha, hb, hc⟩
  · intro h
    exact ⟨a, h.1, b, h.2.1, c, h.2.2, rfl⟩

namespace Specs

section
variable (members : List (String × Json))

theorem decodeDomains?_iff (t : FieldType) (ht : t.shape = domainShape)
    (hdefault : (default t).values = domainValues {}) (s : DomainSpecs) :
    decodeDomains? (.object members) = some s ↔
      ∀ d ∈ t.shape, (domainValues s).lookup d.name = t.valueIn? members d := by
  have hvalue : ∀ name, (default t).value? name = (domainValues {}).lookup name := by
    intro name
    unfold value?
    rw [hdefault]
  have hallowed := readMember_iff (t := t) Slot.strings_reads members 0 "allowedDomains" false [] s.allowedDomains
    (hvalue _)
  have hexcept := readMember_iff (t := t) Slot.strings_reads members 1 "exceptDomains" false [] s.exceptDomains
    (hvalue _)
  have hempty := readMember_iff (t := t) Slot.bool_reads members 2 "mayBeEmpty" false true s.mayBeEmpty (hvalue _)
  simp only [ht, domainShape, List.forall_mem_cons, List.not_mem_nil, false_implies, implies_true, and_true]
  exact (bind_three_iff (fun a b c => (⟨a, b, c⟩ : DomainSpecs)) (by simp) _ _ _).trans
    (and_congr hallowed (and_congr hexcept hempty))

theorem decodeMembers?_self_iff (s : Specs) : decodeMembers? s.type (.object members) = some s ↔
    ∀ d ∈ s.type.shape, s.value? d.name = s.type.valueIn? members d := by
  cases s with
  | boolean s =>
    have honly := readMember_iff (t := .boolean) Slot.bool_reads members 0 "onlyTrue" true false s.onlyTrue rfl
    simp only [type, FieldType.shape, List.forall_mem_cons, List.not_mem_nil, false_implies, implies_true, and_true]
    refine Iff.trans ?_ honly
    simp only [decodeMembers?, Option.bind_eq_bind, Option.bind_eq_some_iff, Option.pure_def, Option.some.injEq,
      boolean.injEq]
    apply Iff.intro
    · intro h
      obtain ⟨_, h, rfl⟩ := h
      exact h
    · intro h
      exact ⟨_, h, rfl⟩
  | string s =>
    have hmin := readMember_iff (t := .string) Slot.number_reads members 0 "lengthMin" true none s.lengthMin rfl
    have hmax := readMember_iff (t := .string) Slot.number_reads members 1 "lengthMax" true none s.lengthMax rfl
    have hempty := readMember_iff (t := .string) Slot.bool_reads members 2 "mayBeEmpty" false true s.mayBeEmpty rfl
    have hpattern := readMember_iff (t := .string) Slot.pattern_reads members 3 "pattern" false none s.pattern rfl
    simp only [type, FieldType.shape, List.forall_mem_cons, List.not_mem_nil, false_implies, implies_true, and_true]
    refine Iff.trans ?_ (and_congr hmin (and_congr hmax (and_congr hempty hpattern)))
    simp only [decodeMembers?, Option.bind_eq_bind, Option.bind_eq_some_iff, Option.pure_def, Option.some.injEq,
      string.injEq]
    apply Iff.intro
    · intro h
      obtain ⟨_, ha, _, hb, _, hc, _, hd, rfl⟩ := h
      exact ⟨ha, hb, hc, hd⟩
    · intro h
      exact ⟨_, h.1, _, h.2.1, _, h.2.2.1, _, h.2.2.2, rfl⟩
  | number s =>
    have hmin := readMember_iff (t := .number) Slot.number_reads members 0 "min" true none s.min rfl
    have hmax := readMember_iff (t := .number) Slot.number_reads members 1 "max" true none s.max rfl
    have hempty := readMember_iff (t := .number) Slot.bool_reads members 2 "mayBeEmpty" false true s.mayBeEmpty rfl
    simp only [type, FieldType.shape, List.forall_mem_cons, List.not_mem_nil, false_implies, implies_true, and_true]
    exact (bind_three_iff (fun a b c => number ⟨a, b, c⟩) (by simp) _ _ _).trans
      (and_congr hmin (and_congr hmax hempty))
  | date s =>
    have hmin := readMember_iff (t := .date) Slot.date_reads members 0 "min" false none s.min rfl
    have hmax := readMember_iff (t := .date) Slot.date_reads members 1 "max" false none s.max rfl
    have hempty := readMember_iff (t := .date) Slot.bool_reads members 2 "mayBeEmpty" false true s.mayBeEmpty rfl
    simp only [type, FieldType.shape, List.forall_mem_cons, List.not_mem_nil, false_implies, implies_true, and_true]
    exact (bind_three_iff (fun a b c => date ⟨a, b, c⟩) (by simp) _ _ _).trans
      (and_congr hmin (and_congr hmax hempty))
  | email s =>
    refine Iff.trans ?_ (decodeDomains?_iff members .email rfl rfl s)
    simp [decodeMembers?, type]
  | json s =>
    have hsize := readMember_iff (t := .json) Slot.size_reads members 0 "maxSize" true defaultMaxSize s.maxSize rfl
    have hempty := readMember_iff (t := .json) Slot.bool_reads members 1 "mayBeEmpty" false true s.mayBeEmpty rfl
    simp only [type, FieldType.shape, List.forall_mem_cons, List.not_mem_nil, false_implies, implies_true, and_true]
    refine Iff.trans ?_ (and_congr hsize hempty)
    simp only [decodeMembers?, Option.bind_eq_bind, Option.bind_eq_some_iff, Option.pure_def, Option.some.injEq,
      json.injEq]
    apply Iff.intro
    · intro h
      obtain ⟨_, ha, _, hb, rfl⟩ := h
      exact ⟨ha, hb⟩
    · intro h
      exact ⟨_, h.1, _, h.2, rfl⟩
  | select s =>
    have hvalues := readMember_iff (t := .select) Slot.strings_reads members 0 "allowedValues" false []
      s.allowedValues rfl
    have hmultiple := readMember_iff (t := .select) Slot.bool_reads members 1 "multiple" false false s.multiple rfl
    have hempty := readMember_iff (t := .select) Slot.bool_reads members 2 "mayBeEmpty" false true s.mayBeEmpty rfl
    simp only [type, FieldType.shape, List.forall_mem_cons, List.not_mem_nil, false_implies, implies_true, and_true]
    exact (bind_three_iff (fun a b c => select ⟨a, b, c⟩) (by simp) _ _ _).trans
      (and_congr hvalues (and_congr hmultiple hempty))
  | url s =>
    refine Iff.trans ?_ (decodeDomains?_iff members .url rfl rfl s)
    simp [decodeMembers?, type]
  | relation s =>
    have hcollection := readMember_iff (t := .relation) Slot.string_reads members 0 "collection" false "" s.collection
      rfl
    have hmultiple := readMember_iff (t := .relation) Slot.bool_reads members 1 "multiple" false false s.multiple rfl
    have hempty := readMember_iff (t := .relation) Slot.bool_reads members 2 "mayBeEmpty" false true s.mayBeEmpty rfl
    simp only [type, FieldType.shape, List.forall_mem_cons, List.not_mem_nil, false_implies, implies_true, and_true]
    exact (bind_three_iff (fun a b c => relation ⟨a, b, c⟩) (by simp) _ _ _).trans
      (and_congr hcollection (and_congr hmultiple hempty))

/-- Decoding gives specs of the type asked for, and these are the ones whose members have the values that
their slots find. -/
theorem decode?_object_iff (t : FieldType) (s : Specs) : decode? t (.object members) = some s ↔
    s.type = t ∧ ∀ d ∈ t.shape, s.value? d.name = t.valueIn? members d := by
  have hdec : decode? t (.object members) = decodeMembers? t (.object members) := rfl
  rw [hdec]
  apply Iff.intro
  · intro h
    have htype := decodeMembers?_type h
    subst htype
    exact ⟨rfl, (decodeMembers?_self_iff members s).mp h⟩
  · intro h
    obtain ⟨rfl, hvalues⟩ := h
    exact (decodeMembers?_self_iff members s).mpr hvalues

end

end Specs

end TableSchema
