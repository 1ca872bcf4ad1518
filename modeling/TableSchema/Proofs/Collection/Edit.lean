import TableSchema.Collection

/-!
# Edits

An edit is one operation with its arguments; the id of a new field is one of them, since ids come from
outside. An edit is made on a collection, which finds fields by the orders they hold, or on a plain list of
entries, where places are positions and nothing else.
-/

namespace TableSchema

/-- What a field is apart from its place. -/
structure Entry where
  id : String
  isAuto : Option Bool
  item : Descriptor
deriving DecidableEq, Repr

def StoredField.entry (f : StoredField) : Entry :=
  ⟨f.id, f.isAuto, f.item⟩

inductive Edit where
  | add (newId : String) (item : Descriptor)
  | copy (newId id : String)
  | remove (order : Int)
  | removeById (id : String)
  | updateKey (id key : String)
  | updateSpecs (id : String) (specs : Specs)
  | move (source target : Int)
deriving DecidableEq, Repr

/-- The id of a new field, if there is one, or why nothing was done. -/
abbrev Answer := Except SchemaError (Option String)

/-! ## On a collection -/

namespace Collection

def entries (c : Collection) : List Entry :=
  c.fields.map (·.entry)

/-- An edit that fails leaves the collection as it is. -/
def orSame (c : Collection) : Except SchemaError Collection → Collection × Answer
  | .ok c' => (c', .ok none)
  | .error e => (c, .error e)

def edit (c : Collection) : Edit → Collection × Answer
  | .add newId item => (c.add newId item, .ok newId)
  | .copy newId id =>
    match c.copy? newId id with
    | some c' => (c', .ok newId)
    | none => (c, .ok none)
  | .remove order => (c.remove order, .ok none)
  | .removeById id => (c.removeById id, .ok none)
  | .updateKey id key => c.orSame (c.updateKey id key)
  | .updateSpecs id specs => c.orSame (c.updateSpecs id specs)
  | .move source target => (c.move source target, .ok none)

end Collection

/-! ## On a list -/

namespace Entry

def copy (newId : String) (e : Entry) : Entry :=
  ⟨newId, none, { e.item with key := e.item.key ++ "-copy" }⟩

def withKey (key : String) (e : Entry) : Entry :=
  { e with item := { e.item with key } }

def withSpecs (specs : Specs) (e : Entry) : Entry :=
  { e with item := { e.item with specs } }

def withCopy (newId id : String) : List Entry → List Entry
  | [] => []
  | e :: rest => if e.id = id then e :: e.copy newId :: rest else e :: withCopy newId id rest

def erased (k : Int) (es : List Entry) : List Entry :=
  if 0 ≤ k ∧ k < es.length then es.eraseIdx k.toNat else es

def modified (id : String) (f : Entry → Entry) (es : List Entry) : List Entry :=
  es.modify (es.findIdx (·.id == id)) f

/-- Takes the entry at position `source` out and puts it back at `target`, or at the nearer end. -/
def moved (source target : Int) (es : List Entry) : List Entry :=
  if h : 0 ≤ source ∧ source < es.length then
    (es.eraseIdx source.toNat).insertIdx (min target.toNat (es.length - 1))
      (es.get ⟨source.toNat, by omega⟩)
  else es

def edit (es : List Entry) : Edit → List Entry × Answer
  | .add newId item => (es ++ [⟨newId, none, item⟩], .ok newId)
  | .copy newId id => (withCopy newId id es, .ok (if es.any (·.id == id) then some newId else none))
  | .remove order => (erased order es, .ok none)
  | .removeById id => (es.filter (·.id ≠ id), .ok none)
  | .updateKey id key =>
    match es.find? (·.id == id) with
    | some _ => (modified id (withKey key) es, .ok none)
    | none => (es, .error (.unknownId id))
  | .updateSpecs id specs =>
    match es.find? (·.id == id) with
    | some e =>
      if specs.type = e.item.type then (modified id (withSpecs specs) es, .ok none)
      else (es, .error (.typeMismatch e.item.type specs.type))
    | none => (es, .error (.unknownId id))
  | .move source target => (moved source target es, .ok none)

end Entry

/-! ## Runs -/

def run {σ : Type} (step : σ → Edit → σ × Answer) (s : σ) : List Edit → σ × List Answer
  | [] => (s, [])
  | e :: rest =>
    let (s, answer) := step s e
    let (s, answers) := run step s rest
    (s, answer :: answers)

theorem run_cons {σ : Type} (step : σ → Edit → σ × Answer) (s : σ) (e : Edit) (rest : List Edit) :
    run step s (e :: rest) =
      ((run step (step s e).1 rest).1, (step s e).2 :: (run step (step s e).1 rest).2) :=
  rfl

end TableSchema
