import TableSchema.Check.Fields
import TableSchema.Proofs.Except
import TableSchema.Proofs.Specs.Shape

/-!
# Which stored fields can be read

`StoredField.ofJson_ok_iff`: a stored field is read exactly when its wrapper, its base settings and its
specs pass their checks.
-/

namespace TableSchema

theorem ofTag_eq_ok_iff (tag : String) (t : FieldType) :
    FieldType.ofTag tag = .ok t ↔ FieldType.ofTag? tag = some t := by
  unfold FieldType.ofTag
  cases FieldType.ofTag? tag <;> simp

theorem bind_string?_eq_some_iff (v : Option Json) (s : String) :
    v.bind Json.string? = some s ↔ v = some (.string s) := by
  cases v with
  | none => simp
  | some v => cases v <;> simp [Json.string?]

theorem any_isString_iff (v : Option Json) : v.any Json.isString = true ↔ ∃ s, v = some (.string s) := by
  cases v with
  | none => simp
  | some v => cases v <;> simp [Json.isString]

/-! ## Descriptors -/

namespace Descriptor

theorem textMember_eq_ok_iff (members : List (String × Json)) (name s : String) :
    textMember members name = .ok s ↔ members.lookup name = some (.string s) := by
  unfold textMember
  cases h : members.lookup name with
  | none => simp
  | some v => cases v <;> simp

theorem specs_eq_ok_iff (t : FieldType) (v : Option Json) (s : Specs) :
    Specs.ofJson t (v.getD .null) = .ok s ↔ ∃ w, v = some w ∧ Specs.ofJson t w = .ok s := by
  cases v with
  | some v => simp
  | none =>
    have : t.violations .null ≠ [] := List.cons_ne_nil _ _
    simp [Specs.ofJson_eq_ok_iff, this]

theorem ofJson_eq_ok_iff (members : List (String × Json)) (d : Descriptor) :
    ofJson (.object members) = .ok d ↔ ∃ tag t v,
      members.lookup "key" = some (.string d.key) ∧ members.lookup "type" = some (.string tag) ∧
      FieldType.ofTag? tag = some t ∧ members.lookup "title" = some (.string d.title) ∧
      members.lookup "specs" = some v ∧ Specs.ofJson t v = .ok d.specs := by
  unfold ofJson
  simp only [bind_eq_ok_iff, textMember_eq_ok_iff, ofTag_eq_ok_iff, specs_eq_ok_iff, pure, Except.pure,
    Except.ok.injEq]
  apply Iff.intro
  · intro h
    obtain ⟨key, hk, tag, ht, t, htag, title, htitle, s, ⟨v, hv, hs⟩, rfl⟩ := h
    exact ⟨tag, t, v, hk, ht, htag, htitle, hv, hs⟩
  · intro h
    obtain ⟨tag, t, v, hk, ht, htag, htitle, hv, hs⟩ := h
    exact ⟨d.key, hk, tag, ht, t, htag, d.title, htitle, d.specs, ⟨v, hv, hs⟩, rfl⟩

theorem specsOk_iff (members : List (String × Json)) : Check.specsOk members = true ↔
    ∃ tag t v s, members.lookup "type" = some (.string tag) ∧ FieldType.ofTag? tag = some t ∧
      members.lookup "specs" = some v ∧ Specs.ofJson t v = .ok s := by
  unfold Check.specsOk
  apply Iff.intro
  · intro h
    cases ht : ((members.lookup "type").bind Json.string?).bind FieldType.ofTag? with
    | none => simp [ht] at h
    | some t =>
      cases hv : members.lookup "specs" with
      | none => simp [ht, hv] at h
      | some v =>
        obtain ⟨tag, htag, ht⟩ := Option.bind_eq_some_iff.mp ht
        rw [htag] at h
        simp only [Option.bind_some, ht, hv, List.isEmpty_iff] at h
        obtain ⟨s, hs⟩ := (Specs.ofJson_ok_iff t v).mpr h
        exact ⟨tag, t, v, s, (bind_string?_eq_some_iff _ _).mp htag, ht, rfl, hs⟩
  · intro h
    obtain ⟨tag, t, v, s, htag, ht, hv, hs⟩ := h
    rw [(bind_string?_eq_some_iff _ _).mpr htag]
    simp only [Option.bind_some, ht, hv, List.isEmpty_iff]
    exact (Specs.ofJson_ok_iff t v).mp ⟨s, hs⟩

theorem baseOk_iff (members : List (String × Json)) : Check.baseOk members = true ↔
    ∃ key tag title, members.lookup "key" = some (.string key) ∧
      members.lookup "type" = some (.string tag) ∧ members.lookup "title" = some (.string title) := by
  simp only [Check.baseOk, List.all_cons, List.all_nil, Bool.and_true, Bool.and_eq_true, any_isString_iff]
  apply Iff.intro
  · intro h
    obtain ⟨⟨key, hk⟩, ⟨tag, ht⟩, title, htitle⟩ := h
    exact ⟨key, tag, title, hk, ht, htitle⟩
  · intro h
    obtain ⟨key, tag, title, hk, ht, htitle⟩ := h
    exact ⟨⟨key, hk⟩, ⟨tag, ht⟩, title, htitle⟩

theorem ofJson_ok_iff (members : List (String × Json)) : (∃ d, ofJson (.object members) = .ok d) ↔
    Check.baseOk members = true ∧ Check.specsOk members = true := by
  rw [baseOk_iff, specsOk_iff]
  apply Iff.intro
  · intro h
    obtain ⟨d, hd⟩ := h
    obtain ⟨tag, t, v, hk, ht, htag, htitle, hv, hs⟩ := (ofJson_eq_ok_iff members d).mp hd
    exact ⟨⟨d.key, tag, d.title, hk, ht, htitle⟩, tag, t, v, d.specs, ht, htag, hv, hs⟩
  · intro h
    obtain ⟨⟨key, _, title, hk, _, htitle⟩, tag, t, v, s, ht, htag, hv, hs⟩ := h
    exact ⟨⟨key, title, s⟩, (ofJson_eq_ok_iff members _).mpr ⟨tag, t, v, hk, ht, htag, htitle, hv, hs⟩⟩

end Descriptor

/-! ## Wrappers -/

namespace StoredField

theorem readIsAuto_ok_iff (v : Option Json) :
    (∃ auto, readIsAuto v = .ok auto) ↔ v.all Json.isBool = true := by
  cases v with
  | none => simp [readIsAuto]
  | some v => cases v <;> simp [readIsAuto, Json.isBool]

def required {α : Type} (cause : Malformed) : Option α → Except SchemaError α
  | some a => .ok a
  | none => .error (.malformed cause)

theorem required_eq_ok_iff {α : Type} (cause : Malformed) (v : Option α) (a : α) :
    required cause v = .ok a ↔ v = some a := by
  cases v <;> simp [required]

theorem required_eq_error_iff {α : Type} (cause : Malformed) (v : Option α) (e : SchemaError) :
    required cause v = .error e ↔ v = none ∧ e = .malformed cause := by
  cases v <;> simp [required, eq_comm]

theorem ofJson_object (members : List (String × Json)) : ofJson (.object members) = do
    let id ← required .fieldId ((members.lookup "id").bind Json.string?)
    let order ← required .fieldOrder ((members.lookup "order").bind integralOrder?)
    let isAuto ← readIsAuto (members.lookup "isAuto")
    let item ← required .fieldItem (members.lookup "item")
    let d ← Descriptor.ofJson item
    return ⟨id, order, isAuto, d⟩ := by
  simp only [ofJson]
  cases (members.lookup "id").bind Json.string? with
  | none => rfl
  | some id =>
    cases (members.lookup "order").bind integralOrder? with
    | none => rfl
    | some order =>
      cases members.lookup "item" with
      | none => rfl
      | some item => rfl

theorem ofJson_eq_ok_iff (members : List (String × Json)) (f : StoredField) :
    ofJson (.object members) = .ok f ↔ members.lookup "id" = some (.string f.id) ∧
      (members.lookup "order").bind integralOrder? = some f.order ∧
      readIsAuto (members.lookup "isAuto") = .ok f.isAuto ∧
      ∃ item, members.lookup "item" = some item ∧ Descriptor.ofJson item = .ok f.item := by
  rw [ofJson_object]
  simp only [bind_eq_ok_iff, required_eq_ok_iff, bind_string?_eq_some_iff, pure, Except.pure, Except.ok.injEq]
  apply Iff.intro
  · rintro ⟨id, hid, order, horder, isAuto, hauto, item, hitem, d, hd, rfl⟩
    exact ⟨hid, horder, hauto, item, hitem, hd⟩
  · rintro ⟨hid, horder, hauto, item, hitem, hd⟩
    exact ⟨_, hid, _, horder, _, hauto, item, hitem, _, hd, rfl⟩

theorem wrapperOk_iff (members : List (String × Json)) : Check.wrapperOk (.object members) = true ↔
    (∃ id, members.lookup "id" = some (.string id)) ∧
    (∃ order, (members.lookup "order").bind integralOrder? = some order) ∧
    (∃ auto, readIsAuto (members.lookup "isAuto") = .ok auto) ∧
    ∃ item, members.lookup "item" = some (.object item) := by
  have hitem : ((members.lookup "item").any fun item => item.object?.isSome) = true ↔
      ∃ item, members.lookup "item" = some (.object item) := by
    cases members.lookup "item" with
    | none => simp
    | some v => cases v <;> simp [Json.object?]
  unfold Check.wrapperOk
  simp only [Bool.and_eq_true, any_isString_iff, Option.isSome_iff_exists, readIsAuto_ok_iff, hitem,
    and_assoc]

def itemMembers? (field : Json) : Option (List (String × Json)) :=
  (field.get? "item").bind Json.object?

theorem ofJson_ok_iff (v : Json) : (∃ f, ofJson v = .ok f) ↔ Check.wrapperOk v = true ∧
    (itemMembers? v).any Check.baseOk = true ∧ (itemMembers? v).any Check.specsOk = true := by
  cases v with
  | object members =>
    have hmembers : itemMembers? (.object members) = (members.lookup "item").bind Json.object? := rfl
    rw [wrapperOk_iff, hmembers]
    apply Iff.intro
    · intro h
      obtain ⟨f, hf⟩ := h
      obtain ⟨hid, horder, hauto, item, hitem, hd⟩ := (ofJson_eq_ok_iff members f).mp hf
      cases item with
      | object item =>
        have := (Descriptor.ofJson_ok_iff item).mp ⟨f.item, hd⟩
        refine ⟨⟨⟨f.id, hid⟩, ⟨f.order, horder⟩, ⟨f.isAuto, hauto⟩, item, hitem⟩, ?_⟩
        rw [hitem]
        exact this
      | _ => cases hd
    · intro h
      obtain ⟨⟨⟨id, hid⟩, ⟨order, horder⟩, ⟨auto, hauto⟩, item, hitem⟩, hbase, hspecs⟩ := h
      rw [hitem] at hbase hspecs
      obtain ⟨d, hd⟩ := (Descriptor.ofJson_ok_iff item).mpr ⟨hbase, hspecs⟩
      exact ⟨⟨id, order, auto, d⟩,
        (ofJson_eq_ok_iff members _).mpr ⟨hid, horder, hauto, .object item, hitem, hd⟩⟩
  | _ =>
    apply Iff.intro
    · intro h
      obtain ⟨f, hf⟩ := h
      cases hf
    · intro h
      cases h.1

theorem itemKey?_of_ofJson {v : Json} {f : StoredField} (h : ofJson v = .ok f) :
    Check.itemKey? v = some f.key := by
  cases v with
  | object members =>
    obtain ⟨_, _, _, item, hitem, hd⟩ := (ofJson_eq_ok_iff members f).mp h
    cases item with
    | object item =>
      obtain ⟨_, _, _, hk, _⟩ := (Descriptor.ofJson_eq_ok_iff item f.item).mp hd
      unfold Check.itemKey? Json.get?
      simp only [hitem, Option.bind_some, hk]
      rfl
    | _ => cases hd
  | _ => cases h

end StoredField

end TableSchema
