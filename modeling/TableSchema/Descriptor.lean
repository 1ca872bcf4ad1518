import TableSchema.Specs.Reading

/-!
# Field descriptors

A descriptor says what one column of a table is. Its type is the type of its specs.
-/

namespace TableSchema

structure Descriptor where
  key : String
  title : String
  specs : Specs
deriving DecidableEq, Repr

namespace Descriptor

def type (d : Descriptor) : FieldType :=
  d.specs.type

/-- A descriptor with the default title of its type. -/
def ofSpecs (key : String) (specs : Specs) : Descriptor :=
  ⟨key, specs.type.title, specs⟩

def withTitle (d : Descriptor) (title : String) : Descriptor :=
  { d with title }

def ofSettings (t : FieldType) (key : String) (settings : Json) : Except SchemaError Descriptor :=
  (Specs.ofPartial t settings).map (ofSpecs key)

def create (key tag : String) (settings : Json) : Except SchemaError Descriptor := do
  let t ← FieldType.ofTag tag
  ofSettings t key settings

def textMember (members : List (String × Json)) (name : String) : Except SchemaError String :=
  match members.lookup name with
  | some (.string s) => .ok s
  | _ => .error (.malformed (.descriptorMember name))

/-- Reads a stored descriptor. The tag of the type is looked up before title and specs are. -/
def ofJson : Json → Except SchemaError Descriptor
  | .object members => do
    let key ← textMember members "key"
    let tag ← textMember members "type"
    let t ← FieldType.ofTag tag
    let title ← textMember members "title"
    let specs ← Specs.ofJson t ((members.lookup "specs").getD .null)
    return ⟨key, title, specs⟩
  | v => .error (.malformed (.descriptorNotObject v.kind))

def toJson (d : Descriptor) : Json :=
  .object [
    ("key", .string d.key),
    ("type", .string d.type.tag),
    ("title", .string d.title),
    ("specs", d.specs.toJson)]

end Descriptor

end TableSchema
