import TableSchema.Proofs.Calendar.Written
import TableSchema.Proofs.Specs.Shape

/-!
# Specs in their stored form

`violations_toJson`: what is written of specs has the declared shape exactly when the years of all date
bounds have up to four digits. `ofJson_toJson`: then it is read as the same specs, with date bounds cut to
whole milliseconds.
-/

namespace TableSchema

theorem Double.ofRatio?_negative {negative : Bool} {num den : Nat} {x : Double}
    (h : ofRatio? negative num den = some x) : x.negative = negative := by
  unfold ofRatio? at h
  by_cases hz : num = 0
  · rw [if_pos hz] at h
    rw [← Option.some.inj h]
    rfl
  · rw [if_neg hz] at h
    simp only [Option.ite_none_left_eq_some] at h
    rw [← Option.some.inj h.2]

theorem Double.ofInt_isNonNegative {n : Int} (h : 0 ≤ n) : (Double.ofInt n).isNonNegative = true := by
  have hneg : decide (n < 0) = false := by simp [h]
  have : (Double.ofInt n).negative = false := by
    unfold Double.ofInt
    rw [hneg]
    cases hr : ofRatio? false n.natAbs 1 with
    | none => rfl
    | some x => exact ofRatio?_negative hr
  unfold Double.isNonNegative
  rw [this]
  rfl

namespace Specs

def dateBounds : Specs → List Instant
  | date s => s.min.toList ++ s.max.toList
  | _ => []

/-- What readers of specs ensure: a pattern is one, a leap second ends a minute, and a size is not below zero. -/
def Sound : Specs → Prop
  | string s => ∀ p, s.pattern = some p → (Pattern.read? p).isSome = true
  | date s => ∀ t ∈ (date s).dateBounds, t.Regular
  | json s => s.maxSize.isNonNegative = true
  | _ => True

def Storable (s : Specs) : Prop :=
  ∀ t ∈ s.dateBounds, t.FourDigitYear

def cut : Specs → Specs
  | date s => date { s with min := s.min.map Instant.cut, max := s.max.map Instant.cut }
  | s => s

end Specs

/-! ## Written members fit their slots -/

@[simp] theorem fits_number (x : Option Double) : Slot.numberOrNull.fits (.ofOption .ofDouble x) = true := by
  cases x <;> rfl

@[simp] theorem fits_bool (b : Bool) : Slot.bool.fits (.bool b) = true :=
  rfl

@[simp] theorem fits_string (s : String) : Slot.string.fits (.string s) = true :=
  rfl

@[simp] theorem fits_size (x : Double) : Slot.nonNegativeNumber.fits (.ofDouble x) = x.isNonNegative :=
  rfl

@[simp] theorem fits_strings (ss : List String) : Slot.strings.fits (.ofStrings ss) = true := by
  simp [Slot.fits, Json.ofStrings, Json.array?, Json.isString]

theorem fits_pattern_iff (p : Option String) : Slot.patternOrNull.fits (.ofOption .string p) = true ↔
    ∀ source, p = some source → (Pattern.read? source).isSome = true := by
  cases p with
  | none => simp [Slot.fits, Json.ofOption, Json.isNull]
  | some source => simp [Slot.fits, Json.ofOption, Json.isNull, Json.string?]

theorem ofJson?_specsJson (t : Instant) :
    Instant.ofJson? t.specsJson = if t.FourDigitYear then some t.shown.cut else none :=
  t.ofText?_millis

theorem fits_date_iff (t : Option Instant) : Slot.dateOrNull.fits (.ofOption Instant.specsJson t) = true ↔
    ∀ u ∈ t.toList, u.FourDigitYear := by
  cases t with
  | none => simp [Slot.fits, Json.ofOption, Json.isNull]
  | some u =>
    have hnull : u.specsJson.isNull = false := rfl
    simp only [Slot.fits, Json.ofOption, hnull, ofJson?_specsJson, Bool.false_or, Option.toList_some,
      List.mem_singleton, forall_eq]
    by_cases hy : u.FourDigitYear
    · simp [hy]
    · simp [hy]

/-! ## The shape of written specs -/

theorem declares_members (s : Specs) : ∀ m ∈ s.members, s.type.declares m.1 = true := by
  have hdomain : ∀ d : DomainSpecs, ∀ m ∈ Specs.domainMembers d,
      (domainShape.any fun d => d.name == m.1) = true := by
    intro d
    simp [Specs.domainMembers, domainShape]
  cases s with
  | email s => exact hdomain s
  | url s => exact hdomain s
  | _ => simp [Specs.members, Specs.type, FieldType.declares, FieldType.shape]

theorem violation?_of_member {d : Declared} {members : List (String × Json)} {v : Json}
    (h : members.lookup d.name = some v) : d.violation? members = none ↔ d.slot.fits v = true := by
  unfold Declared.violation?
  simp only [h]
  cases d.slot.fits v <;> simp

theorem domain_violations (s : DomainSpecs) :
    ∀ d ∈ domainShape, d.violation? (Specs.domainMembers s) = none := by
  unfold domainShape
  simp only [List.forall_mem_cons, List.not_mem_nil, false_implies, implies_true, and_true]
  refine ⟨?_, ?_, ?_⟩
  · exact (violation?_of_member rfl).mpr (fits_strings s.allowedDomains)
  · exact (violation?_of_member rfl).mpr (fits_strings s.exceptDomains)
  · exact (violation?_of_member rfl).mpr (fits_bool s.mayBeEmpty)

/-- Only date bounds can be written in a way that does not fit. -/
theorem shape_members_iff (s : Specs) (hs : s.Sound) :
    (∀ d ∈ s.type.shape, d.violation? s.members = none) ↔ s.Storable := by
  unfold Specs.Storable
  cases s with
  | email s => exact iff_of_true (domain_violations s) (by simp [Specs.dateBounds])
  | url s => exact iff_of_true (domain_violations s) (by simp [Specs.dateBounds])
  | date s =>
    have hmin : Declared.violation? ⟨"min", .dateOrNull, false⟩ (Specs.date s).members = none ↔ _ :=
      (violation?_of_member rfl).trans (fits_date_iff s.min)
    have hmax : Declared.violation? ⟨"max", .dateOrNull, false⟩ (Specs.date s).members = none ↔ _ :=
      (violation?_of_member rfl).trans (fits_date_iff s.max)
    have hempty : Declared.violation? ⟨"mayBeEmpty", .bool, false⟩ (Specs.date s).members = none :=
      (violation?_of_member rfl).mpr (fits_bool s.mayBeEmpty)
    simp only [Specs.type, FieldType.shape, List.forall_mem_cons, hmin, hmax, hempty, Specs.dateBounds,
      List.forall_mem_append, List.not_mem_nil, false_implies, implies_true, and_true]
  | string s =>
    have hpattern := (fits_pattern_iff s.pattern).mpr hs
    simp [Specs.type, FieldType.shape, Specs.members, Declared.violation?, List.lookup_cons, Specs.dateBounds,
      hpattern]
  | json s =>
    have hsize : s.maxSize.isNonNegative = true := hs
    simp [Specs.type, FieldType.shape, Specs.members, Declared.violation?, List.lookup_cons, Specs.dateBounds,
      hsize]
  | _ =>
    simp [Specs.type, FieldType.shape, Specs.members, Declared.violation?, List.lookup_cons, Specs.dateBounds]

theorem violations_toJson (s : Specs) (hs : s.Sound) : s.type.violations s.toJson = [] ↔ s.Storable := by
  unfold Specs.toJson
  rw [violations_object_iff, shape_members_iff s hs]
  exact and_iff_right (declares_members s)

/-! ## Reading written specs -/

@[simp] theorem nullOr_double?_ofOption (x : Option Double) :
    Json.nullOr Json.double? (.ofOption .ofDouble x) = some x := by
  cases x <;> rfl

@[simp] theorem nullOr_string?_ofOption (s : Option String) :
    Json.nullOr Json.string? (.ofOption .string s) = some s := by
  cases s <;> rfl

@[simp] theorem double?_ofDouble (x : Double) : Json.double? (.ofDouble x) = some x :=
  rfl

theorem mapM_string?_map (ss : List String) : (ss.map Json.string).mapM Json.string? = some ss := by
  induction ss with
  | nil => rfl
  | cons s ss ih =>
    rw [List.map_cons, List.mapM_cons, ih]
    rfl

@[simp] theorem strings?_ofStrings (ss : List String) : Json.strings? (.ofStrings ss) = some ss :=
  mapM_string?_map ss

theorem nullOr_date?_ofOption {t : Option Instant} (hregular : ∀ u ∈ t.toList, u.Regular)
    (h : ∀ u ∈ t.toList, u.FourDigitYear) :
    Json.nullOr Instant.ofJson? (.ofOption Instant.specsJson t) = some (t.map Instant.cut) := by
  cases t with
  | none => rfl
  | some u =>
    have hu : u.FourDigitYear := h u (by simp)
    have : Json.nullOr Instant.ofJson? u.specsJson = (Instant.ofJson? u.specsJson).map some := rfl
    unfold Json.ofOption
    simp only
    rw [this, ofJson?_specsJson, if_pos hu, Instant.shown_of_regular (hregular u (by simp))]
    rfl

theorem decodeDomains?_members (s : DomainSpecs) :
    Specs.decodeDomains? (.object (Specs.domainMembers s)) = some s := by
  simp [Specs.decodeDomains?, Specs.domainMembers, readMember_object, List.lookup_cons, Json.bool?]

theorem decode?_toJson {s : Specs} (hs : s.Sound) (hw : s.Storable) :
    Specs.decode? s.type s.toJson = some s.cut := by
  have hdec : Specs.decode? s.type s.toJson = Specs.decodeMembers? s.type (.object s.members) := rfl
  rw [hdec]
  cases s with
  | email s =>
    have := decodeDomains?_members s
    simp only [Specs.decodeMembers?, Specs.type, Specs.members, this]
    rfl
  | url s =>
    have := decodeDomains?_members s
    simp only [Specs.decodeMembers?, Specs.type, Specs.members, this]
    rfl
  | date s =>
    have hmin := nullOr_date?_ofOption (fun u hu => hs u (List.mem_append_left _ hu))
      fun u hu => hw u (List.mem_append_left _ hu)
    have hmax := nullOr_date?_ofOption (fun u hu => hs u (List.mem_append_right _ hu))
      fun u hu => hw u (List.mem_append_right _ hu)
    simp [Specs.decodeMembers?, Specs.type, Specs.members, readMember_object, List.lookup_cons, Json.bool?,
      Specs.cut, hmin, hmax]
  | _ =>
    simp [Specs.decodeMembers?, Specs.type, Specs.members, readMember_object, List.lookup_cons, Json.bool?,
      Json.string?, Specs.cut]

namespace Specs

theorem ofJson_toJson {s : Specs} (hs : s.Sound) (hw : s.Storable) :
    ofJson s.type s.toJson = .ok s.cut :=
  (ofJson_eq_ok_iff _ _ _).mpr ⟨(violations_toJson s hs).mpr hw, decode?_toJson hs hw⟩

theorem ofJson_toJson_ok_iff {s : Specs} (hs : s.Sound) :
    (∃ s', ofJson s.type s.toJson = .ok s') ↔ s.Storable := by
  rw [ofJson_ok_iff, violations_toJson s hs]

/-! ## What readers ensure -/

theorem decodeMembers?_type {t : FieldType} {v : Json} {s : Specs} (h : decodeMembers? t v = some s) :
    s.type = t := by
  cases t <;> simp only [decodeMembers?, Option.bind_eq_bind, Option.bind_eq_some_iff,
    Option.map_eq_some_iff, Option.pure_def, Option.some.injEq] at h
  case boolean => obtain ⟨_, _, rfl⟩ := h; rfl
  case string => obtain ⟨_, _, _, _, _, _, _, _, rfl⟩ := h; rfl
  case number => obtain ⟨_, _, _, _, _, _, rfl⟩ := h; rfl
  case date => obtain ⟨_, _, _, _, _, _, rfl⟩ := h; rfl
  case email => obtain ⟨_, _, rfl⟩ := h; rfl
  case json => obtain ⟨_, _, _, _, rfl⟩ := h; rfl
  case select => obtain ⟨_, _, _, _, _, _, rfl⟩ := h; rfl
  case url => obtain ⟨_, _, rfl⟩ := h; rfl
  case relation => obtain ⟨_, _, _, _, _, _, rfl⟩ := h; rfl

theorem decodeMembers?_of_decode? {t : FieldType} {v : Json} {s : Specs} (h : decode? t v = some s) :
    decodeMembers? t v = some s := by
  unfold decode? at h
  by_cases hm : v.holdsMembers t.shape.length = true
  · rwa [if_pos hm] at h
  · rw [if_neg hm] at h
    cases h

theorem type_of_ofJson {t : FieldType} {v : Json} {s : Specs} (h : ofJson t v = .ok s) : s.type = t :=
  decodeMembers?_type (decodeMembers?_of_decode? ((ofJson_eq_ok_iff t v s).mp h).2)

theorem fits_of_readMember {α : Type} {t : FieldType} {members : List (String × Json)}
    (h : t.violations (.object members) = []) {d : Declared} (hd : d ∈ t.shape) {position : Nat}
    {absent a : α} {read : Json → Option α}
    (ha : (Json.object members).readMember position d.name absent read = some a) :
    a = absent ∨ ∃ w, d.slot.fits w = true ∧ read w = some a := by
  rw [readMember_object] at ha
  cases hw : members.lookup d.name with
  | none =>
    rw [hw] at ha
    exact Or.inl (Option.some.inj ha).symm
  | some w =>
    rw [hw] at ha
    exact Or.inr ⟨w, fits_of_violation?_none (((violations_object_iff t members).mp h).2 d hd) hw, ha⟩

theorem read_of_nullOr {α : Type} {read : Json → Option α} {w : Json} {a : α}
    (h : Json.nullOr read w = some (some a)) : read w = some a := by
  cases w with
  | null => cases h
  | _ => simpa [Json.nullOr] using h

theorem pattern_of_fits {w : Json} {p : Option String} (hw : Slot.patternOrNull.fits w = true)
    (hp : Json.nullOr Json.string? w = some p) (source : String) (hs : p = some source) :
    (Pattern.read? source).isSome = true := by
  subst hs
  have hsource := read_of_nullOr hp
  cases w with
  | string s =>
    rw [← Option.some.inj hsource]
    exact hw
  | _ => cases hsource

theorem size_of_fits {w : Json} {x : Double} (hw : Slot.nonNegativeNumber.fits w = true)
    (hx : Json.double? w = some x) : x.isNonNegative = true := by
  cases w with
  | number n =>
    rw [← Option.some.inj hx]
    cases n with
    | int n =>
      apply Double.ofInt_isNonNegative
      simpa [Slot.fits, Json.number?, Json.Number.isNonNegative] using hw
    | double x => exact hw
  | _ => cases hx

theorem regular_of_readMember {members : List (String × Json)} {position : Nat} {name : String}
    {bound : Option Instant}
    (h : (Json.object members).readMember position name none (Json.nullOr Instant.ofJson?) = some bound) :
    ∀ t ∈ bound.toList, t.Regular := by
  rw [readMember_object] at h
  cases hw : members.lookup name with
  | none =>
    rw [hw] at h
    rw [← Option.some.inj h]
    exact List.forall_mem_nil _
  | some w =>
    rw [hw] at h
    intro t ht
    rw [Option.mem_toList.mp ht] at h
    exact Instant.regular_of_ofJson? (read_of_nullOr h)

theorem sound_of_ofJson {t : FieldType} {v : Json} {s : Specs} (h : ofJson t v = .ok s) : s.Sound := by
  obtain ⟨hv, hdec⟩ := (ofJson_eq_ok_iff t v s).mp h
  have htype := type_of_ofJson h
  have hmem := decodeMembers?_of_decode? hdec
  obtain ⟨members, rfl⟩ := object_of_violations hv
  cases s with
  | string s =>
    subst htype
    simp only [decodeMembers?, type, Option.bind_eq_bind, Option.bind_eq_some_iff, Option.pure_def,
      Option.some.injEq, string.injEq] at hmem
    obtain ⟨_, _, _, _, _, _, p, hp, rfl⟩ := hmem
    have hd : (⟨"pattern", .patternOrNull, false⟩ : Declared) ∈ FieldType.string.shape := by decide
    rcases fits_of_readMember hv hd hp with hnone | hread
    · intro source hs
      rw [hnone] at hs
      cases hs
    · obtain ⟨w, hw, hr⟩ := hread
      exact pattern_of_fits hw hr
  | date s =>
    subst htype
    simp only [decodeMembers?, type, Option.bind_eq_bind, Option.bind_eq_some_iff, Option.pure_def,
      Option.some.injEq, date.injEq] at hmem
    obtain ⟨min, hmin, max, hmax, _, _, rfl⟩ := hmem
    exact List.forall_mem_append.mpr ⟨regular_of_readMember hmin, regular_of_readMember hmax⟩
  | json s =>
    subst htype
    simp only [decodeMembers?, type, Option.bind_eq_bind, Option.bind_eq_some_iff, Option.pure_def,
      Option.some.injEq, json.injEq] at hmem
    obtain ⟨x, hx, _, _, rfl⟩ := hmem
    have hd : (⟨"maxSize", .nonNegativeNumber, true⟩ : Declared) ∈ FieldType.json.shape := by decide
    rcases fits_of_readMember hv hd hx with hdefault | hread
    · unfold Sound
      simp only
      rw [hdefault]
      exact Double.ofInt_isNonNegative (by decide)
    · obtain ⟨w, hw, hr⟩ := hread
      exact size_of_fits hw hr
  | _ => exact trivial

theorem ofJson_of_ofPartial {t : FieldType} {settings : Json} {s : Specs} (h : ofPartial t settings = .ok s) :
    ∃ v, ofJson t v = .ok s := by
  cases settings with
  | null => exact ⟨_, h⟩
  | object members => exact ⟨_, h⟩
  | _ => cases h

theorem sound_of_ofPartial {t : FieldType} {settings : Json} {s : Specs} (h : ofPartial t settings = .ok s) :
    s.Sound := by
  obtain ⟨_, hjson⟩ := ofJson_of_ofPartial h
  exact sound_of_ofJson hjson

end Specs

end TableSchema
