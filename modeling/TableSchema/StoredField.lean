import TableSchema.Descriptor

/-!
# Stored fields

A stored field is a descriptor with an id and a place in its table.
-/

namespace TableSchema

structure StoredField where
  id : String
  order : Int
  /-- Set for fields that the store keeps up by itself. -/
  isAuto : Option Bool
  item : Descriptor
deriving DecidableEq, Repr

def recordIdLength : Nat := 24

/-- The order that a number is. What is not held as an integer of 64 bits is taken as a double, so that `2.0`
is an order. -/
def integralOrder? : Json → Option Int
  | .number n => n.int64?.or n.toDouble.int64?
  | _ => none

namespace StoredField

def key (f : StoredField) : String :=
  f.item.key

def type (f : StoredField) : FieldType :=
  f.item.type

def readIsAuto : Option Json → Except SchemaError (Option Bool)
  | none => .ok none
  | some (.bool b) => .ok (some b)
  | some v => .error (.malformed (.fieldIsAuto v.kind))

def ofJson : Json → Except SchemaError StoredField
  | .object members => do
    let some id := (members.lookup "id").bind Json.string? | .error (.malformed .fieldId)
    let some order := (members.lookup "order").bind integralOrder? | .error (.malformed .fieldOrder)
    let isAuto ← readIsAuto (members.lookup "isAuto")
    let some item := members.lookup "item" | .error (.malformed .fieldItem)
    return ⟨id, order, isAuto, ← Descriptor.ofJson item⟩
  | v => .error (.malformed (.fieldNotObject v.kind))

/-- Reads an array of stored fields; the first error is the answer. -/
def listOfJson (v : Json) : Except SchemaError (List StoredField) :=
  match v with
  | .array items => items.mapM ofJson
  | v => .error (.malformed (.fieldsNotArray v.kind))

def toJson (f : StoredField) : Json :=
  let auto := match f.isAuto with
    | some b => [("isAuto", Json.bool b)]
    | none => []
  .object ([("id", .string f.id), ("order", .ofInt f.order)] ++ auto ++
    [("item", f.item.toJson)])

/-! ## Fields that every table has -/

def recordId : StoredField :=
  let length := some (Double.ofInt recordIdLength)
  { id := "autofield-id"
    order := -1001
    isAuto := some true
    item := (Descriptor.ofSpecs "_id" (.string
      { lengthMin := length, lengthMax := length, mayBeEmpty := false })).withTitle "ID" }

def createdAt : StoredField :=
  { id := "autofield-createdat"
    order := 1001
    isAuto := some true
    item := (Descriptor.ofSpecs "createdAt" (.date {})).withTitle "Created At" }

def updatedAt : StoredField :=
  { id := "autofield-updatedat"
    order := 1002
    isAuto := some true
    item := (Descriptor.ofSpecs "updatedAt" (.date { mayBeEmpty := false })).withTitle "Updated At" }

def autoFields : List StoredField :=
  [recordId, createdAt, updatedAt]

end StoredField

end TableSchema
