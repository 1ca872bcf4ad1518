import TableSchema.Collection
import TableSchema.Json.Reading
import TableSchema.Rule.Compile

/-!
# Options

Options are read from JSON text. Every option has a default. A record of options is an object, or an array
of the members in their order. Members with other names are passed over, whatever their values; a known
member may come once.
-/

namespace TableSchema

structure Options where
  compiler : CompileOptions := {}
  collection : CollectionOptions := {}
deriving DecidableEq, Repr

inductive OptionsError where
  /-- Where and why the text fails is left out. -/
  | notReadable
  | noIdLength
deriving DecidableEq, Repr

def OptionsError.code : OptionsError → String
  | notReadable => "CONFIG_PARSE"
  | noIdLength => "CONFIG_INVALID"

def OptionsError.message : OptionsError → String
  | notReadable => "Invalid config JSON"
  | noIdLength => "Invalid config: collection.id_length must be > 0"

namespace Options

/-- The members of an object with their names decoded. -/
def namedMembers? (members : List (List Piece × Document)) : Option (List (String × Document)) :=
  members.mapM fun m => (textOf m.1).map fun name => (String.ofList name, m.2)

/-- The member of a record at a position with a name. `names` are all that the record knows. -/
def record? (names : List String) : Document → Option (Nat → Option Document)
  | .object members => do
    let members ← namedMembers? members
    if names.all fun name => (members.filter (·.1 == name)).length ≤ 1 then
      return fun i => names[i]?.bind fun name => members.lookup name
    else none
  | .array items => if items.length ≤ names.length then some (items[·]?) else none
  | _ => none

/-- What `read` makes of a member, and `absent` if there is none. -/
def member {α : Type} (absent : α) (read : Document → Option α) : Option Document → Option α
  | some d => read d
  | none => some absent

def flag? : Document → Option Bool
  | .bool b => some b
  | _ => none

/-- An integer from zero to below `2⁶⁴`. -/
def count? : Document → Option Nat
  | .number n => n.int?.bind Int.toNat?
  | _ => none

def compiler? (d : Document) : Option CompileOptions := do
  let get ← record? ["enforce_json_max_size", "strip_www_prefix"] d
  return {
    enforceJsonMaxSize := ← member false flag? (get 0)
    stripWwwPrefix := ← member true flag? (get 1) }

def collection? (d : Document) : Option CollectionOptions := do
  let get ← record? ["id_length"] d
  return { idLength := ← member 12 count? (get 0) }

def decode? (d : Document) : Option Options := do
  let get ← record? ["compiler", "collection"] d
  return {
    compiler := ← member {} compiler? (get 0)
    collection := ← member {} collection? (get 1) }

/-- Reads options; ids have to have at least one character. -/
def ofText (s : String) : Except OptionsError Options :=
  match (Document.read? s.toList).bind decode? with
  | none => .error .notReadable
  | some o => if o.collection.idLength = 0 then .error .noIdLength else .ok o

end Options

end TableSchema
