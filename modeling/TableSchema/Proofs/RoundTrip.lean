import Mathlib.Data.List.Basic
import TableSchema.Proofs.StoredForm

/-!
# Stored fields are read back

`ofJson_toJson_of_not_date`: besides dates, whose bounds lose what the stored form has no place for, every
field that readers or settings can make comes back from its stored form as it is.
-/

namespace TableSchema

namespace Specs

theorem storable_of_not_date {s : Specs} (h : s.type ≠ .date) : s.Storable := by
  cases s with
  | date s => exact absurd rfl h
  | _ =>
    intro t ht
    cases ht

theorem cut_of_not_date {s : Specs} (h : s.type ≠ .date) : s.cut = s := by
  cases s with
  | date s => exact absurd rfl h
  | _ => rfl

end Specs

namespace StoredField

theorem cut_of_not_date {f : StoredField} (h : f.type ≠ .date) : f.cut = f := by
  unfold cut Descriptor.cut
  rw [Specs.cut_of_not_date h]

theorem sound_of_create {f : StoredField} (horder : OrderFits f.order) {key tag title : String}
    {settings : Json} {d : Descriptor} (hd : Descriptor.create key tag settings = .ok d)
    (hf : f.item = d.withTitle title) : f.Sound := by
  refine ⟨?_, horder⟩
  rw [hf]
  exact Descriptor.sound_of_create (d := d) hd

/-- A field that was read, or that was made from settings and given any title, is read from its stored form
as it is, unless it is a date. -/
theorem ofJson_toJson_of_not_date {f : StoredField}
    (hsource : (∃ v, ofJson v = .ok f) ∨
      OrderFits f.order ∧ ∃ key tag settings title d,
        Descriptor.create key tag settings = .ok d ∧ f.item = d.withTitle title)
    (htype : f.type ≠ .date) : ofJson f.toJson = .ok f := by
  have hs : f.Sound := by
    rcases hsource with ⟨v, hv⟩ | ⟨horder, key, tag, settings, title, d, hd, hf⟩
    · exact sound_of_ofJson hv
    · exact sound_of_create horder hd hf
  rw [ofJson_toJson hs (Specs.storable_of_not_date htype), cut_of_not_date htype]

def nameFieldJson : Json :=
  .object [
    ("id", .string "n"),
    ("order", .ofDouble (Double.ofInt (-3))),
    ("isAuto", .bool false),
    ("item", .object [
      ("key", .string "name"),
      ("type", .string "string"),
      ("title", .string "Name"),
      ("specs", .object [
        ("lengthMin", .null),
        ("lengthMax", .ofInt 40),
        ("pattern", .string "^[A-Z]")])])]

def nameField : StoredField :=
  ⟨"n", -3, some false,
    ⟨"name", "Name", .string { lengthMax := some (Double.ofInt 40), pattern := some "^[A-Z]" }⟩⟩

def amountField : StoredField :=
  ⟨"m", 7, none, ⟨"amount", "Amount", .number { max := some (Double.ofInt 1000) }⟩⟩

theorem ofJson_toJson_name_and_amount :
    (ofJson nameFieldJson = .ok nameField ∧ ofJson nameField.toJson = .ok nameField) ∧
    Descriptor.create "amount" "number" (.object [("max", .ofInt 1000)]) =
      .ok (.ofSpecs "amount" amountField.item.specs) ∧
    ofJson amountField.toJson = .ok amountField := by
  have hname : ofJson nameFieldJson = .ok nameField := by decide +kernel
  have hamount : Descriptor.create "amount" "number" (.object [("max", .ofInt 1000)]) =
      .ok (.ofSpecs "amount" amountField.item.specs) := by decide +kernel
  refine ⟨⟨hname, ofJson_toJson_of_not_date (Or.inl ⟨_, hname⟩) (by decide)⟩, hamount, ?_⟩
  exact ofJson_toJson_of_not_date (Or.inr ⟨by decide, _, _, _, "Amount", _, hamount, rfl⟩) (by decide)

end StoredField

end TableSchema
