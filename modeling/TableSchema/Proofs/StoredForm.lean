import TableSchema.Proofs.Specs.Stored
import TableSchema.Proofs.StoredField
import TableSchema.Proofs.StoredOrder

/-!
# Fields in their stored form

`StoredField.ofJson_toJson`: the stored form of a field is read as the same field with its date bounds cut
to whole milliseconds, if all of them can be stored. The wrapper and the base settings of a stored form
pass their checks in any case.
-/

namespace TableSchema

/-! ## Descriptors -/

namespace Descriptor

def cut (d : Descriptor) : Descriptor :=
  { d with specs := d.specs.cut }

def members (d : Descriptor) : List (String × Json) := [
  ("key", .string d.key),
  ("type", .string d.type.tag),
  ("title", .string d.title),
  ("specs", d.specs.toJson)]

theorem baseOk_members (d : Descriptor) : Check.baseOk d.members = true :=
  (baseOk_iff d.members).mpr ⟨d.key, d.type.tag, d.title, rfl, rfl, rfl⟩

theorem ofJson_toJson {d : Descriptor} (hs : d.specs.Sound) (hw : d.specs.Storable) :
    ofJson d.toJson = .ok d.cut :=
  (ofJson_eq_ok_iff d.members d.cut).mpr ⟨d.type.tag, d.type, d.specs.toJson, rfl, rfl,
    FieldType.ofTag?_tag d.type, rfl, rfl, Specs.ofJson_toJson hs hw⟩

theorem specsOk_members_iff {d : Descriptor} (hs : d.specs.Sound) :
    Check.specsOk d.members = true ↔ d.specs.Storable := by
  rw [specsOk_iff, ← Specs.ofJson_toJson_ok_iff hs]
  apply Iff.intro
  · intro h
    obtain ⟨tag, t, v, s, htag, ht, hv, hs⟩ := h
    have htag : d.type.tag = tag := Json.string.inj (Option.some.inj htag)
    have hv : d.specs.toJson = v := Option.some.inj hv
    rw [← htag, FieldType.ofTag?_tag] at ht
    rw [← hv, ← Option.some.inj ht] at hs
    exact ⟨s, hs⟩
  · intro h
    obtain ⟨s, hs⟩ := h
    exact ⟨d.type.tag, d.type, d.specs.toJson, s, rfl, FieldType.ofTag?_tag d.type, rfl, hs⟩

theorem sound_of_ofJson {v : Json} {d : Descriptor} (h : ofJson v = .ok d) : d.specs.Sound := by
  cases v with
  | object members =>
    obtain ⟨_, _, _, _, _, _, _, _, hs⟩ := (ofJson_eq_ok_iff members d).mp h
    exact Specs.sound_of_ofJson hs
  | _ => cases h

theorem sound_of_create {key tag : String} {settings : Json} {d : Descriptor}
    (h : create key tag settings = .ok d) : d.specs.Sound := by
  obtain ⟨t, _, h⟩ := bind_eq_ok_iff.mp h
  unfold ofSettings at h
  cases hp : Specs.ofPartial t settings with
  | error e =>
    rw [hp] at h
    cases h
  | ok s =>
    rw [hp] at h
    cases h
    exact Specs.sound_of_ofPartial hp

end Descriptor

/-! ## Wrappers -/

namespace StoredField

structure Sound (f : StoredField) : Prop where
  specs : f.item.specs.Sound
  order : OrderFits f.order

def cut (f : StoredField) : StoredField :=
  { f with item := f.item.cut }

def Storable (f : StoredField) : Prop :=
  f.item.specs.Storable

theorem sound_of_ofJson {v : Json} {f : StoredField} (h : ofJson v = .ok f) : f.Sound := by
  cases v with
  | object members =>
    obtain ⟨_, horder, _, item, _, hd⟩ := (ofJson_eq_ok_iff members f).mp h
    obtain ⟨w, _, hw⟩ := Option.bind_eq_some_iff.mp horder
    exact ⟨Descriptor.sound_of_ofJson hd, orderFits_of_integralOrder? hw⟩
  | _ => cases h

def members (f : StoredField) : List (String × Json) :=
  [("id", .string f.id), ("order", .ofInt f.order)] ++
    (match f.isAuto with
    | some b => [("isAuto", Json.bool b)]
    | none => []) ++
    [("item", f.item.toJson)]

theorem toJson_eq (f : StoredField) : f.toJson = .object f.members :=
  rfl

section
variable (f : StoredField)

theorem lookup_id : f.members.lookup "id" = some (.string f.id) :=
  rfl

theorem lookup_order : f.members.lookup "order" = some (.ofInt f.order) :=
  rfl

theorem readIsAuto_members : readIsAuto (f.members.lookup "isAuto") = .ok f.isAuto := by
  unfold members
  cases f.isAuto with
  | none => rfl
  | some b => rfl

theorem lookup_item : f.members.lookup "item" = some f.item.toJson := by
  unfold members
  cases f.isAuto with
  | none => rfl
  | some b => rfl

theorem wrapperOk_toJson (h : OrderFits f.order) : Check.wrapperOk f.toJson = true := by
  rw [toJson_eq, wrapperOk_iff]
  refine ⟨⟨f.id, f.lookup_id⟩, ⟨f.order, ?_⟩, ⟨f.isAuto, f.readIsAuto_members⟩, f.item.members, f.lookup_item⟩
  rw [lookup_order, Option.bind_some, integralOrder?_ofInt h]

theorem itemMembers?_toJson : itemMembers? f.toJson = some f.item.members := by
  have : itemMembers? f.toJson = (f.members.lookup "item").bind Json.object? := rfl
  rw [this, lookup_item]
  rfl

theorem itemKey?_toJson : Check.itemKey? f.toJson = some f.key := by
  have : Check.itemKey? f.toJson =
      ((f.members.lookup "item").bind (·.get? "key")).bind Json.string? := rfl
  rw [this, lookup_item]
  rfl

end

theorem ofJson_toJson {f : StoredField} (hs : f.Sound) (hw : f.Storable) : ofJson f.toJson = .ok f.cut := by
  rw [toJson_eq, ofJson_eq_ok_iff]
  refine ⟨f.lookup_id, ?_, f.readIsAuto_members, f.item.toJson, f.lookup_item,
    Descriptor.ofJson_toJson hs.specs hw⟩
  rw [lookup_order, Option.bind_some]
  exact integralOrder?_ofInt hs.order

theorem ofJson_toJson_ok_iff {f : StoredField} (hs : f.Sound) :
    (∃ g, ofJson f.toJson = .ok g) ↔ f.Storable := by
  rw [ofJson_ok_iff, itemMembers?_toJson, wrapperOk_toJson f hs.order]
  unfold Storable
  rw [← Descriptor.specsOk_members_iff hs.specs]
  simp [Descriptor.baseOk_members]

def dueFrom (t : Instant) : StoredField :=
  ⟨"a", 0, none, .ofSpecs "due" (.date { min := some t })⟩

end StoredField

end TableSchema
