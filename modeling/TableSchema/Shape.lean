import TableSchema.Calendar.Reading
import TableSchema.FieldType
import TableSchema.Pattern.Meaning
import TableSchema.Text.NameOrder

/-!
# The declared shape of specs

Every field type declares the members that its specs may have and what each of them may hold. A check
lists all violations: first the members that are not declared, sorted, then the declared ones in their
order.
-/

namespace TableSchema

/-- What one member of specs may hold. -/
inductive Slot where
  | bool
  | string
  | numberOrNull
  | nonNegativeNumber
  | patternOrNull
  | dateOrNull
  | strings
deriving DecidableEq, Repr

namespace Slot

def expected : Slot → String
  | bool => "bool"
  | string => "string"
  | numberOrNull => "number or null"
  | nonNegativeNumber => "non-negative number"
  | patternOrNull => "regular expression or null"
  | dateOrNull => "date or null"
  | strings => "array of strings"

def fits : Slot → Json → Bool
  | bool, v => v.isBool
  | string, v => v.isString
  | numberOrNull, v => v.isNull || v.isNumber
  | nonNegativeNumber, v => v.number?.any Json.Number.isNonNegative
  | patternOrNull, v => v.isNull || v.string?.any fun s => (Pattern.read? s).isSome
  | dateOrNull, v => v.isNull || (Instant.ofJson? v).isSome
  | strings, v => v.array?.any fun items => items.all Json.isString

/-- What is reported of a value that does not fit. Why a text is no pattern is left out, only the fact is said. -/
def found : Slot → Json → String
  | nonNegativeNumber, .number n => n.text
  | patternOrNull, .string _ => "invalid pattern"
  | dateOrNull, .string s => "unparseable date '" ++ s ++ "'"
  | strings, .array _ => "array with non-string element"
  | _, v => v.kind.name

end Slot

structure Declared where
  name : String
  slot : Slot
  required : Bool
deriving DecidableEq, Repr

def domainShape : List Declared := [
  ⟨"allowedDomains", .strings, false⟩,
  ⟨"exceptDomains", .strings, false⟩,
  ⟨"mayBeEmpty", .bool, false⟩]

def FieldType.shape : FieldType → List Declared
  | boolean => [⟨"onlyTrue", .bool, true⟩]
  | string => [
    ⟨"lengthMin", .numberOrNull, true⟩,
    ⟨"lengthMax", .numberOrNull, true⟩,
    ⟨"mayBeEmpty", .bool, false⟩,
    ⟨"pattern", .patternOrNull, false⟩]
  | number => [
    ⟨"min", .numberOrNull, true⟩,
    ⟨"max", .numberOrNull, true⟩,
    ⟨"mayBeEmpty", .bool, false⟩]
  | date => [
    ⟨"min", .dateOrNull, false⟩,
    ⟨"max", .dateOrNull, false⟩,
    ⟨"mayBeEmpty", .bool, false⟩]
  | email => domainShape
  | url => domainShape
  | json => [
    ⟨"maxSize", .nonNegativeNumber, true⟩,
    ⟨"mayBeEmpty", .bool, false⟩]
  | select => [
    ⟨"allowedValues", .strings, false⟩,
    ⟨"multiple", .bool, false⟩,
    ⟨"mayBeEmpty", .bool, false⟩]
  | relation => [
    ⟨"collection", .string, false⟩,
    ⟨"multiple", .bool, false⟩,
    ⟨"mayBeEmpty", .bool, false⟩]

inductive Violation where
  | notAnObject (found : Json.Kind)
  | undeclared (name : String)
  | missing (name : String)
  | misfit (name : String) (slot : Slot) (found : String)
  /-- Specs of the right shape that could not be read all the same. -/
  | unreadable (type : FieldType)
deriving DecidableEq, Repr

namespace Violation

def field : Violation → String
  | notAnObject _ => "$specs"
  | undeclared name => name
  | missing name => name
  | misfit name _ _ => name
  | unreadable _ => "$specs"

def expected : Violation → String
  | notAnObject _ => "object"
  | undeclared _ => "no undeclared fields"
  | missing _ => "field to be present"
  | misfit _ slot _ => slot.expected
  | unreadable type => type.tag ++ " specs"

/-- What was found in place of the expected. Why specs could not be read is left out as well. -/
def actual : Violation → String
  | notAnObject found => found.name
  | undeclared _ => "extra field present"
  | missing _ => "missing"
  | misfit _ _ found => found
  | unreadable _ => "unreadable"

def text (v : Violation) : String :=
  "field '" ++ v.field ++ "': expected " ++ v.expected ++ ", got " ++ v.actual

end Violation

def Declared.violation? (d : Declared) (members : List (String × Json)) : Option Violation :=
  match members.lookup d.name with
  | some v => if d.slot.fits v then none else some (.misfit d.name d.slot (d.slot.found v))
  | none => if d.required then some (.missing d.name) else none

def FieldType.declares (t : FieldType) (name : String) : Bool :=
  t.shape.any (·.name == name)

def FieldType.violations (t : FieldType) : Json → List Violation
  | .object members =>
    ((sortedNames (members.map (·.1))).filter (!t.declares ·)).map .undeclared ++
      t.shape.filterMap (·.violation? members)
  | v => [.notAnObject v.kind]

end TableSchema
