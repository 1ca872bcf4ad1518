import TableSchema.Check.Report
import TableSchema.StoredField

/-!
# Checking lists of fields

All four checks are made of every field, whatever the others say. Members that a wrapper or a descriptor
has beside its own do not matter; those of specs do.
-/

namespace TableSchema

namespace Check

/-- The key of a field, if it is a string. -/
def itemKey? (field : Json) : Option String :=
  ((field.get? "item").bind (·.get? "key")).bind Json.string?

def wrapperOk : Json → Bool
  | .object members =>
    (members.lookup "id").any Json.isString &&
      ((members.lookup "order").bind integralOrder?).isSome &&
      (members.lookup "isAuto").all Json.isBool &&
      (members.lookup "item").any fun item => item.object?.isSome
  | _ => false

def baseOk (item : List (String × Json)) : Bool :=
  ["key", "type", "title"].all fun name => (item.lookup name).any Json.isString

def specsOk (item : List (String × Json)) : Bool :=
  match ((item.lookup "type").bind Json.string?).bind FieldType.ofTag?, item.lookup "specs" with
  | some t, some v => (t.violations v).isEmpty
  | _, _ => false

/-- The checks of one field; `keys` are the keys of all fields. -/
def fieldChecks (keys : List String) (index : Nat) (field : Json) : FieldChecks :=
  let item := (field.get? "item").bind Json.object?
  let key := itemKey? field
  { index
    key
    unique := key.all fun k => keys.count k == 1
    wrapper := wrapperOk field
    base := item.any baseOk
    specs := item.any specsOk }

end Check

namespace Report

def ofJson (fields : List Json) : Report :=
  ⟨fields.zipIdx.map fun (field, i) => Check.fieldChecks (fields.filterMap Check.itemKey?) i field⟩

def ofFields (fields : List StoredField) : Report :=
  ofJson (fields.map (·.toJson))

end Report

end TableSchema
