import TableSchema.SchemaError
import TableSchema.Specs.Writing

/-!
# Reading specs

There are three ways. `decode?` takes each member that it knows or its default. `ofJson` checks the shape
first, so that required members have to be there. `ofPartial` lays the members of settings over the
defaults and reads what comes out.
-/

namespace TableSchema

/-- A member of specs: of an object by name, of an array by position. -/
def Json.specsMember? (v : Json) (position : Nat) (name : String) : Option Json :=
  match v with
  | .object members => members.lookup name
  | .array items => items[position]?
  | _ => none

/-- An object, or an array of at most `n` items. -/
def Json.holdsMembers (v : Json) (n : Nat) : Bool :=
  match v with
  | .object _ => true
  | .array items => items.length ≤ n
  | _ => false

/-- What `read` makes of a member, and `absent` if there is none. -/
def Json.readMember {α : Type} (v : Json) (position : Nat) (name : String) (absent : α)
    (read : Json → Option α) : Option α :=
  match v.specsMember? position name with
  | some w => read w
  | none => some absent

/-- Null for nothing. -/
def Json.nullOr {α : Type} (read : Json → Option α) : Json → Option (Option α)
  | .null => some none
  | v => (read v).map some

def Json.double? (v : Json) : Option Double :=
  v.number?.map Json.Number.toDouble

namespace Specs

def decodeDomains? (v : Json) : Option DomainSpecs := do
  return {
    allowedDomains := ← v.readMember 0 "allowedDomains" [] Json.strings?
    exceptDomains := ← v.readMember 1 "exceptDomains" [] Json.strings?
    mayBeEmpty := ← v.readMember 2 "mayBeEmpty" true Json.bool? }

/-- The members of `v`, with defaults for those that are not there. -/
def decodeMembers? (t : FieldType) (v : Json) : Option Specs :=
  match t with
  | .boolean => do
    return boolean { onlyTrue := ← v.readMember 0 "onlyTrue" false Json.bool? }
  | .string => do
    return string {
      lengthMin := ← v.readMember 0 "lengthMin" none (Json.nullOr Json.double?)
      lengthMax := ← v.readMember 1 "lengthMax" none (Json.nullOr Json.double?)
      mayBeEmpty := ← v.readMember 2 "mayBeEmpty" true Json.bool?
      pattern := ← v.readMember 3 "pattern" none (Json.nullOr Json.string?) }
  | .number => do
    return number {
      min := ← v.readMember 0 "min" none (Json.nullOr Json.double?)
      max := ← v.readMember 1 "max" none (Json.nullOr Json.double?)
      mayBeEmpty := ← v.readMember 2 "mayBeEmpty" true Json.bool? }
  | .date => do
    return date {
      min := ← v.readMember 0 "min" none (Json.nullOr Instant.ofJson?)
      max := ← v.readMember 1 "max" none (Json.nullOr Instant.ofJson?)
      mayBeEmpty := ← v.readMember 2 "mayBeEmpty" true Json.bool? }
  | .email => (decodeDomains? v).map email
  | .url => (decodeDomains? v).map url
  | .json => do
    return json {
      maxSize := ← v.readMember 0 "maxSize" defaultMaxSize Json.double?
      mayBeEmpty := ← v.readMember 1 "mayBeEmpty" true Json.bool? }
  | .select => do
    return select {
      allowedValues := ← v.readMember 0 "allowedValues" [] Json.strings?
      multiple := ← v.readMember 1 "multiple" false Json.bool?
      mayBeEmpty := ← v.readMember 2 "mayBeEmpty" true Json.bool? }
  | .relation => do
    return relation {
      collection := ← v.readMember 0 "collection" "" Json.string?
      multiple := ← v.readMember 1 "multiple" false Json.bool?
      mayBeEmpty := ← v.readMember 2 "mayBeEmpty" true Json.bool? }

/-- Reads members without regard to the shape: unknown ones are passed over. -/
def decode? (t : FieldType) (v : Json) : Option Specs :=
  if v.holdsMembers t.shape.length then decodeMembers? t v else none

def ofJson (t : FieldType) (v : Json) : Except SchemaError Specs :=
  match t.violations v with
  | [] =>
    match decode? t v with
    | some s => .ok s
    | none => .error (.badSpecs t [.unreadable t])
  | violations => .error (.badSpecs t violations)

/-- `members`, and those of `base` that they do not name. -/
def overlay (members base : List (String × Json)) : List (String × Json) :=
  members ++ base.filter fun m => (members.lookup m.1).isNone

/-- Reads settings, which name only what differs from the defaults. -/
def ofPartial (t : FieldType) : Json → Except SchemaError Specs
  | .null => ofJson t (default t).toJson
  | .object members => ofJson t (.object (overlay members (default t).members))
  | v => .error (.badSpecs t [.notAnObject v.kind])

end Specs

end TableSchema
