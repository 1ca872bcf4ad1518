import TableSchema.Secret
import TableSchema.StoredField

/-!
# Collections of fields

The fields of one table, in order. Every operation leaves the order of each field equal to its position.
Ids of new fields come from outside.
-/

namespace TableSchema

structure CollectionOptions where
  idLength : Nat := 12
deriving DecidableEq, Repr

structure Collection where
  fields : List StoredField
  options : CollectionOptions := {}
deriving DecidableEq, Repr

/-- Sets the order of every field to its position. -/
def renumbered (fields : List StoredField) : List StoredField :=
  fields.mapIdx fun i f => { f with order := i }

namespace Collection

def ofFields (options : CollectionOptions) (fields : List StoredField) : Collection :=
  ⟨renumbered fields, options⟩

def size (c : Collection) : Nat :=
  c.fields.length

def isEmpty (c : Collection) : Bool :=
  c.fields.isEmpty

/-- The first field with an id. -/
def get? (c : Collection) (id : String) : Option StoredField :=
  c.fields.find? (·.id == id)

/-- The id of the next new field, from a stream of random numbers. -/
def newId (c : Collection) (stream : Nat → Nat) : String :=
  Secret.generate c.options.idLength stream

def add (c : Collection) (newId : String) (item : Descriptor) : Collection :=
  { c with fields := c.fields ++ [⟨newId, c.size, none, item⟩] }

/-- Takes the field of order `source` out and puts it back at `target`, or at the nearer end if that is
no position. -/
def move (c : Collection) (source target : Int) : Collection :=
  if source = target then c else
  match c.fields.findIdx? (·.order == source) with
  | none => c
  | some i =>
    match c.fields[i]? with
    | none => c
    | some f =>
      let position := (max 0 (min target (c.size - 1 : Int))).toNat
      { c with fields := renumbered ((c.fields.eraseIdx i).insertIdx position f) }

/-- Puts a copy behind the first field with an id; its key has `-copy` at the end. None for an unknown
id. -/
def copy? (c : Collection) (newId id : String) : Option Collection :=
  match c.fields.findIdx? (·.id == id), c.get? id with
  | some i, some f =>
    let item := { f.item with key := f.item.key ++ "-copy" }
    some ((c.add newId item).move c.size (i + 1))
  | _, _ => none

def remove (c : Collection) (order : Int) : Collection :=
  { c with fields := renumbered (c.fields.filter (·.order != order)) }

/-- Removes the fields with an id. -/
def removeById (c : Collection) (id : String) : Collection :=
  { c with fields := renumbered (c.fields.filter (·.id != id)) }

def updateFirst (id : String) (f : StoredField → StoredField) : List StoredField → List StoredField
  | [] => []
  | field :: rest => if field.id = id then f field :: rest else field :: updateFirst id f rest

def updateKey (c : Collection) (id key : String) : Except SchemaError Collection :=
  match c.get? id with
  | none => .error (.unknownId id)
  | some _ =>
    .ok { c with
      fields := updateFirst id (fun f => { f with item := { f.item with key } }) c.fields }

/-- Replaces specs by specs of the same type. -/
def updateSpecs (c : Collection) (id : String) (specs : Specs) : Except SchemaError Collection :=
  match c.get? id with
  | none => .error (.unknownId id)
  | some field =>
    if specs.type = field.type then
      .ok { c with
        fields := updateFirst id (fun f => { f with item := { f.item with specs } }) c.fields }
    else .error (.typeMismatch field.type specs.type)

end Collection

end TableSchema
