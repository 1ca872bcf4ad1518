import TableSchema.Calendar.Instant
import TableSchema.FieldType
import TableSchema.Number.Double

/-!
# Specs of fields

Each field type has specs of its own, and every member has a default.
-/

namespace TableSchema

structure BooleanSpecs where
  /-- Only `true` will do. -/
  onlyTrue : Bool := false
deriving DecidableEq, Repr

/-- Bounds are finite or not set. Specs put together by hand can also have bounds that are infinite on the other side
or no number at all; these have no counterpart, as nothing that is read is one of them. -/
structure StringSpecs where
  lengthMin : Option Double := none
  lengthMax : Option Double := none
  mayBeEmpty : Bool := true
  /-- A pattern that has to occur somewhere in the value. -/
  pattern : Option String := none
deriving DecidableEq, Repr

/-- A bound that is not set is no bound; the others are finite, as in `StringSpecs`. -/
structure NumberSpecs where
  min : Option Double := none
  max : Option Double := none
  mayBeEmpty : Bool := true
deriving DecidableEq, Repr

/-- Both bounds are allowed values. -/
structure DateSpecs where
  min : Option Instant := none
  max : Option Instant := none
  mayBeEmpty : Bool := true
deriving DecidableEq, Repr

structure DomainSpecs where
  /-- If there are any, only these domains will do. -/
  allowedDomains : List String := []
  exceptDomains : List String := []
  mayBeEmpty : Bool := true
deriving DecidableEq, Repr

/-- Ten mebibytes. -/
def defaultMaxSize : Double :=
  Double.ofInt 10485760

structure JsonSpecs where
  /-- In bytes. -/
  maxSize : Double := defaultMaxSize
  mayBeEmpty : Bool := true
deriving DecidableEq, Repr

structure SelectSpecs where
  allowedValues : List String := []
  /-- The field holds a list of values. -/
  multiple : Bool := false
  mayBeEmpty : Bool := true
deriving DecidableEq, Repr

structure RelationSpecs where
  collection : String := ""
  /-- The field holds a list of ids. -/
  multiple : Bool := false
  mayBeEmpty : Bool := true
deriving DecidableEq, Repr

inductive Specs where
  | boolean (s : BooleanSpecs)
  | string (s : StringSpecs)
  | number (s : NumberSpecs)
  | date (s : DateSpecs)
  | email (s : DomainSpecs)
  | json (s : JsonSpecs)
  | select (s : SelectSpecs)
  | url (s : DomainSpecs)
  | relation (s : RelationSpecs)
deriving DecidableEq, Repr

namespace Specs

def type : Specs → FieldType
  | boolean _ => .boolean
  | string _ => .string
  | number _ => .number
  | date _ => .date
  | email _ => .email
  | json _ => .json
  | select _ => .select
  | url _ => .url
  | relation _ => .relation

def default : FieldType → Specs
  | .boolean => boolean {}
  | .string => string {}
  | .number => number {}
  | .date => date {}
  | .email => email {}
  | .json => json {}
  | .select => select {}
  | .url => url {}
  | .relation => relation {}

@[simp] theorem type_default (t : FieldType) : (default t).type = t := by
  cases t <;> rfl

end Specs

end TableSchema
