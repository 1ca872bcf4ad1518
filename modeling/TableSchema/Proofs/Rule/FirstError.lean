import TableSchema.Proofs.Check.Agreement

/-!
# The first error counts

Readers stop at the first thing they cannot read. `Descriptor.Fails` and `StoredField.Fails` list their errors,
each with what was read before it, and `compileJson_first_error` says which field decides the error when fields
are compiled.
-/

namespace TableSchema

theorem ofTag?_eq_some_iff (tag : String) (t : FieldType) : FieldType.ofTag? tag = some t ↔ t.tag = tag := by
  apply Iff.intro
  · intro h
    simpa using List.find?_some h
  · rintro rfl
    exact t.ofTag?_tag

theorem ofTag_eq_error_iff (tag : String) (e : SchemaError) : FieldType.ofTag tag = .error e ↔
    (∀ t : FieldType, t.tag ≠ tag) ∧ e = .unknownType tag := by
  unfold FieldType.ofTag
  cases h : FieldType.ofTag? tag with
  | some t =>
    have ht := (ofTag?_eq_some_iff tag t).mp h
    have hsome : ¬ ∀ u : FieldType, u.tag ≠ tag := fun hno => hno t ht
    simp [hsome]
  | none =>
    have hno : ∀ t : FieldType, t.tag ≠ tag := by
      intro t ht
      rw [(ofTag?_eq_some_iff tag t).mpr ht] at h
      cases h
    simp [hno, eq_comm]

/-! ## Descriptors -/

namespace Descriptor

theorem textMember_eq_error_iff (members : List (String × Json)) (name : String) (e : SchemaError) :
    textMember members name = .error e ↔
      (∀ s, members.lookup name ≠ some (.string s)) ∧ e = .malformed (.descriptorMember name) := by
  unfold textMember
  cases members.lookup name with
  | none => simp [eq_comm]
  | some v => cases v <;> simp [eq_comm]

/-- What can be wrong with a descriptor, where all before it is as it should be. -/
inductive Fails : Json → SchemaError → Prop
  | notObject {v : Json} (h : v.object? = none) : Fails v (.malformed (.descriptorNotObject v.kind))
  | key {members : List (String × Json)} (h : ∀ s, members.lookup "key" ≠ some (.string s)) :
      Fails (.object members) (.malformed (.descriptorMember "key"))
  | type {members : List (String × Json)} {key : String} (hkey : members.lookup "key" = some (.string key))
      (h : ∀ s, members.lookup "type" ≠ some (.string s)) :
      Fails (.object members) (.malformed (.descriptorMember "type"))
  | unknownType {members : List (String × Json)} {key tag : String}
      (hkey : members.lookup "key" = some (.string key)) (htag : members.lookup "type" = some (.string tag))
      (h : ∀ t : FieldType, t.tag ≠ tag) : Fails (.object members) (.unknownType tag)
  | title {members : List (String × Json)} {key : String} {t : FieldType}
      (hkey : members.lookup "key" = some (.string key)) (htag : members.lookup "type" = some (.string t.tag))
      (h : ∀ s, members.lookup "title" ≠ some (.string s)) :
      Fails (.object members) (.malformed (.descriptorMember "title"))
  | specs {members : List (String × Json)} {key title : String} {t : FieldType} {specs : Json}
      (hkey : members.lookup "key" = some (.string key)) (htag : members.lookup "type" = some (.string t.tag))
      (htitle : members.lookup "title" = some (.string title))
      (hspecs : (members.lookup "specs").getD .null = specs) (h : t.violations specs ≠ []) :
      Fails (.object members) (.badSpecs t (t.violations specs))

theorem ofJson_eq_error_iff (v : Json) (e : SchemaError) : ofJson v = .error e ↔ Fails v e := by
  cases v with
  | object members =>
    -- one alternative for each reader that can stop, under what the readers before it found
    simp only [ofJson, bind_eq_error_iff, textMember_eq_error_iff, textMember_eq_ok_iff, ofTag_eq_error_iff,
      ofTag_eq_ok_iff, ofTag?_eq_some_iff, Specs.ofJson_eq_error_iff, pure, Except.pure, reduceCtorEq, and_false,
      exists_false, or_false]
    apply Iff.intro
    · rintro (⟨h, rfl⟩ | ⟨key, hkey, ⟨h, rfl⟩ | ⟨tag, htag, ⟨h, rfl⟩ | ⟨t, rfl, ⟨h, rfl⟩ |
        ⟨title, htitle, h, rfl⟩⟩⟩⟩)
      · exact .key h
      · exact .type hkey h
      · exact .unknownType hkey htag h
      · exact .title hkey htag h
      · exact .specs hkey htag htitle rfl h
    · intro h
      cases h with
      | notObject h => cases h
      | key h => exact Or.inl ⟨h, rfl⟩
      | type hkey h => exact Or.inr ⟨_, hkey, Or.inl ⟨h, rfl⟩⟩
      | unknownType hkey htag h => exact Or.inr ⟨_, hkey, Or.inr ⟨_, htag, Or.inl ⟨h, rfl⟩⟩⟩
      | title hkey htag h => exact Or.inr ⟨_, hkey, Or.inr ⟨_, htag, Or.inr ⟨_, rfl, Or.inl ⟨h, rfl⟩⟩⟩⟩
      | specs hkey htag htitle hspecs h =>
        subst hspecs
        exact Or.inr ⟨_, hkey, Or.inr ⟨_, htag, Or.inr ⟨_, rfl, Or.inr ⟨_, htitle, h, rfl⟩⟩⟩⟩
  | _ =>
    apply Iff.intro
    · intro h
      cases h
      exact .notObject rfl
    · intro h
      cases h
      rfl

end Descriptor

/-! ## Stored fields -/

namespace StoredField

theorem readIsAuto_eq_error_iff (v : Option Json) (e : SchemaError) : readIsAuto v = .error e ↔
    ∃ w, v = some w ∧ w.isBool = false ∧ e = .malformed (.fieldIsAuto w.kind) := by
  cases v with
  | none => simp [readIsAuto]
  | some w =>
    simp only [Option.some.injEq, exists_eq_left', readIsAuto]
    cases w with
    | bool b => simp [Json.isBool]
    | _ => simp [Json.isBool, eq_comm]

/-- What can be wrong with a stored field, where all before it is as it should be. -/
inductive Fails : Json → SchemaError → Prop
  | notObject {v : Json} (h : v.object? = none) : Fails v (.malformed (.fieldNotObject v.kind))
  | id {members : List (String × Json)} (h : ∀ s, members.lookup "id" ≠ some (.string s)) :
      Fails (.object members) (.malformed .fieldId)
  | order {members : List (String × Json)} {id : String} (hid : members.lookup "id" = some (.string id))
      (h : (members.lookup "order").bind integralOrder? = none) :
      Fails (.object members) (.malformed .fieldOrder)
  | isAuto {members : List (String × Json)} {id : String} {order : Int} {v : Json}
      (hid : members.lookup "id" = some (.string id))
      (horder : (members.lookup "order").bind integralOrder? = some order)
      (hv : members.lookup "isAuto" = some v) (h : v.isBool = false) :
      Fails (.object members) (.malformed (.fieldIsAuto v.kind))
  | item {members : List (String × Json)} {id : String} {order : Int} {isAuto : Option Bool}
      (hid : members.lookup "id" = some (.string id))
      (horder : (members.lookup "order").bind integralOrder? = some order)
      (hauto : readIsAuto (members.lookup "isAuto") = .ok isAuto) (h : members.lookup "item" = none) :
      Fails (.object members) (.malformed .fieldItem)
  | descriptor {members : List (String × Json)} {id : String} {order : Int} {isAuto : Option Bool} {item : Json}
      {e : SchemaError} (hid : members.lookup "id" = some (.string id))
      (horder : (members.lookup "order").bind integralOrder? = some order)
      (hauto : readIsAuto (members.lookup "isAuto") = .ok isAuto) (hitem : members.lookup "item" = some item)
      (h : Descriptor.Fails item e) : Fails (.object members) e

theorem ofJson_eq_error_iff (v : Json) (e : SchemaError) : ofJson v = .error e ↔ Fails v e := by
  cases v with
  | object members =>
    have hid : (members.lookup "id").bind Json.string? = none ↔ ∀ s, members.lookup "id" ≠ some (.string s) := by
      simp only [Option.eq_none_iff_forall_ne_some, ne_eq, bind_string?_eq_some_iff]
    simp only [ofJson_object, bind_eq_error_iff, required_eq_error_iff, required_eq_ok_iff, readIsAuto_eq_error_iff,
      Descriptor.ofJson_eq_error_iff, bind_string?_eq_some_iff, hid, pure, Except.pure, reduceCtorEq, and_false,
      exists_false, or_false]
    apply Iff.intro
    · rintro (⟨h, rfl⟩ | ⟨id, hid, ⟨h, rfl⟩ | ⟨order, horder, ⟨v, hv, h, rfl⟩ | ⟨isAuto, hauto, ⟨h, rfl⟩ |
        ⟨item, hitem, h⟩⟩⟩⟩)
      · exact .id h
      · exact .order hid h
      · exact .isAuto hid horder hv h
      · exact .item hid horder hauto h
      · exact .descriptor hid horder hauto hitem h
    · intro h
      cases h with
      | notObject h => cases h
      | id h => exact Or.inl ⟨h, rfl⟩
      | order hid h => exact Or.inr ⟨_, hid, Or.inl ⟨h, rfl⟩⟩
      | isAuto hid horder hv h => exact Or.inr ⟨_, hid, Or.inr ⟨_, horder, Or.inl ⟨_, hv, h, rfl⟩⟩⟩
      | item hid horder hauto h => exact Or.inr ⟨_, hid, Or.inr ⟨_, horder, Or.inr ⟨_, hauto, Or.inl ⟨h, rfl⟩⟩⟩⟩
      | descriptor hid horder hauto hitem h =>
        exact Or.inr ⟨_, hid, Or.inr ⟨_, horder, Or.inr ⟨_, hauto, Or.inr ⟨_, hitem, h⟩⟩⟩⟩
  | _ =>
    apply Iff.intro
    · intro h
      cases h
      exact .notObject rfl
    · intro h
      cases h
      rfl

theorem ofJson_eq_unknownType_iff (v : Json) (tag : String) : ofJson v = .error (.unknownType tag) ↔
    ∃ members item, v = .object members ∧ (∃ id, members.lookup "id" = some (.string id)) ∧
      (∃ order, (members.lookup "order").bind integralOrder? = some order) ∧
      (members.lookup "isAuto").all Json.isBool = true ∧ members.lookup "item" = some (.object item) ∧
      (∃ key, item.lookup "key" = some (.string key)) ∧ item.lookup "type" = some (.string tag) ∧
      ∀ t : FieldType, t.tag ≠ tag := by
  rw [ofJson_eq_error_iff]
  apply Iff.intro
  · intro h
    cases h with
    | descriptor hid horder hauto hitem h =>
      cases h with
      | unknownType hkey htag h =>
        exact ⟨_, _, rfl, ⟨_, hid⟩, ⟨_, horder⟩, (readIsAuto_ok_iff _).mp ⟨_, hauto⟩, hitem, ⟨_, hkey⟩, htag, h⟩
  · rintro ⟨members, item, rfl, ⟨id, hid⟩, ⟨order, horder⟩, hbool, hitem, ⟨key, hkey⟩, htag, h⟩
    obtain ⟨isAuto, hauto⟩ := (readIsAuto_ok_iff _).mpr hbool
    exact .descriptor hid horder hauto hitem (.unknownType hkey htag h)

end StoredField

/-! ## Compiling -/

namespace CompileError

theorem ofSchemaError_of_ne {e : SchemaError} (h : ∀ tag, e ≠ .unknownType tag) : ofSchemaError e = .field e := by
  cases e with
  | unknownType tag => exact absurd rfl (h tag)
  | _ => rfl

theorem status_ofSchemaError (e : SchemaError) : (ofSchemaError e).status = e.status := by
  cases e <;> rfl

theorem message_ofSchemaError (e : SchemaError) : (ofSchemaError e).message = e.message := by
  cases e <;> rfl

end CompileError

theorem compileJson_eq_error_iff (o : CompileOptions) (values : List Json) (e : CompileError) :
    compileJson o (.array values) = .error e ↔ ∃ before v after s, values = before ++ v :: after ∧
      (∀ w ∈ before, ∃ f, StoredField.ofJson w = .ok f) ∧ StoredField.ofJson v = .error s ∧
      e = .ofSchemaError s := by
  have hread : compileJson o (.array values) = .error e ↔
      ∃ s, values.mapM StoredField.ofJson = .error s ∧ e = .ofSchemaError s := by
    simp only [compileJson, StoredField.listOfJson]
    cases values.mapM StoredField.ofJson with
    | ok fields => simp
    | error s => simp [eq_comm]
  simp only [hread, mapM_eq_error_iff]
  apply Iff.intro
  · rintro ⟨s, ⟨before, v, after, hvalues, hbefore, hv⟩, he⟩
    exact ⟨before, v, after, s, hvalues, hbefore, hv, he⟩
  · rintro ⟨before, v, after, s, hvalues, hbefore, hv, he⟩
    exact ⟨s, ⟨before, v, after, hvalues, hbefore, hv⟩, he⟩

/-- What is no array is malformed. Of an array, the error is the one of the first field that is not read,
whatever comes after it; if all are read, the result is the compiled table. An unknown type is an error of its
own, and all other errors stay what they are. A field has an unknown type if its id, order, `isAuto`, item and
key are read and no type has its tag; its title and specs do not matter then. -/
theorem compileJson_first_error (o : CompileOptions) :
    (∀ v : Json, v.array? = none → compileJson o v = .error (.field (.malformed (.fieldsNotArray v.kind)))) ∧
    (∀ (values : List Json) (e : CompileError), compileJson o (.array values) = .error e ↔
      ∃ before v after s, values = before ++ v :: after ∧ (∀ w ∈ before, ∃ f, StoredField.ofJson w = .ok f) ∧
        StoredField.ofJson v = .error s ∧ e = .ofSchemaError s) ∧
    (∀ values : List Json, (∀ v ∈ values, ∃ f, StoredField.ofJson v = .ok f) →
      ∃ fields, values.map StoredField.ofJson = fields.map .ok ∧
        compileJson o (.array values) = .ok (compile o fields)) ∧
    (∀ tag, CompileError.ofSchemaError (.unknownType tag) = .unknownType tag) ∧
    (∀ e : SchemaError, (∀ tag, e ≠ .unknownType tag) → CompileError.ofSchemaError e = .field e ∧
      (CompileError.ofSchemaError e).code = e.code) ∧
    (∀ e, (CompileError.ofSchemaError e).status = e.status ∧ (CompileError.ofSchemaError e).message = e.message) ∧
    ∀ (v : Json) (tag : String), StoredField.ofJson v = .error (.unknownType tag) ↔
      ∃ members item, v = .object members ∧ (∃ id, members.lookup "id" = some (.string id)) ∧
        (∃ order, (members.lookup "order").bind integralOrder? = some order) ∧
        (members.lookup "isAuto").all Json.isBool = true ∧ members.lookup "item" = some (.object item) ∧
        (∃ key, item.lookup "key" = some (.string key)) ∧ item.lookup "type" = some (.string tag) ∧
        ∀ t : FieldType, t.tag ≠ tag := by
  refine ⟨?notArray, compileJson_eq_error_iff o, ?read, fun _ => rfl, ?wrapped,
    fun e => ⟨CompileError.status_ofSchemaError e, CompileError.message_ofSchemaError e⟩,
    StoredField.ofJson_eq_unknownType_iff⟩
  case notArray =>
    intro v hv
    cases v with
    | array items => cases hv
    | _ => rfl
  case read =>
    intro values hread
    obtain ⟨fields, hfields⟩ := (exists_mapM_iff _ values).mpr hread
    rw [mapM_eq_ok_iff] at hfields
    exact ⟨fields, hfields, (compileJson_eq_ok_iff o values _).mpr ⟨fields, hfields, rfl⟩⟩
  case wrapped =>
    intro e he
    rw [CompileError.ofSchemaError_of_ne he]
    exact ⟨rfl, rfl⟩

end TableSchema
