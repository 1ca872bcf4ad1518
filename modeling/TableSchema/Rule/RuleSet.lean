import TableSchema.Rule.Predicate

/-!
# Rule sets

A rule set is the primitive type of a value with the rules that are set, static ones and at most one
predicate. Rules that are not set are not written.
-/

namespace TableSchema

/-- What a value is, before any rule is looked at. -/
inductive ValueType where
  | boolean | string | number | date | arrayOfString
deriving DecidableEq, Repr

namespace ValueType

def all : List ValueType :=
  [boolean, string, number, date, arrayOfString]

def tag : ValueType → String
  | boolean => "boolean"
  | string => "string"
  | number => "number"
  | date => "date"
  | arrayOfString => "array-of-string"

def ofTag? (tag : String) : Option ValueType :=
  all.find? (·.tag == tag)

end ValueType

/-- A bound of a number or of the length of a text; one that is infinite bounds nothing. -/
inductive Limit where
  | finite (x : Double)
  | infinite
deriving DecidableEq, Repr

namespace Limit

def toJson : Limit → Json
  | finite x => .ofDouble x
  | infinite => .null

def ofBound : Option Double → Limit
  | some x => finite x
  | none => infinite

end Limit

structure Rules where
  min : Option Limit := none
  max : Option Limit := none
  is : Option Json := none
  isNot : Option Json := none
  /-- The value, or each of its elements, is one of these. -/
  oneOf : Option (List String) := none
  eachType : Option ValueType := none
  custom : Option Predicate := none

namespace Rules

def isEmpty (r : Rules) : Bool :=
  r.min.isNone && r.max.isNone && r.is.isNone && r.isNot.isNone && r.oneOf.isNone &&
    r.eachType.isNone && r.custom.isNone

/-- A member that is written only when it is set. -/
def member {α : Type} (name : String) (toJson : α → Json) : Option α → List (String × Json)
  | some a => [(name, toJson a)]
  | none => []

def toJson (r : Rules) : Json :=
  .object (
    member "min" Limit.toJson r.min ++
    member "max" Limit.toJson r.max ++
    member "is" id r.is ++
    member "isNot" id r.isNot ++
    member "enum" Json.ofStrings r.oneOf ++
    member "eachType" (fun p => .string p.tag) r.eachType ++
    member "custom" Predicate.toJson r.custom)

end Rules

structure RuleSet where
  type : ValueType
  rules : Option Rules

namespace RuleSet

/-- Drops rules of which none is set. -/
def ofRules (type : ValueType) (rules : Rules) : RuleSet :=
  ⟨type, if rules.isEmpty then none else some rules⟩

def custom (s : RuleSet) : Option Predicate :=
  s.rules.bind (·.custom)

def toJson (s : RuleSet) : Json :=
  .object (("type", .string s.type.tag) :: Rules.member "rules" Rules.toJson s.rules)

end RuleSet

end TableSchema
