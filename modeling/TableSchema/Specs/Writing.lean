import TableSchema.Calendar.Writing
import TableSchema.Json.Value
import TableSchema.Specs.Basic

/-!
# Writing specs

All members are written, in declared order. A bound that is not set is null, and dates have milliseconds.
-/

namespace TableSchema

def Instant.specsJson (t : Instant) : Json :=
  .string (t.text .millis)

namespace Specs

def domainMembers (s : DomainSpecs) : List (String × Json) := [
  ("allowedDomains", .ofStrings s.allowedDomains),
  ("exceptDomains", .ofStrings s.exceptDomains),
  ("mayBeEmpty", .bool s.mayBeEmpty)]

def members : Specs → List (String × Json)
  | boolean s => [("onlyTrue", .bool s.onlyTrue)]
  | string s => [
    ("lengthMin", .ofOption .ofDouble s.lengthMin),
    ("lengthMax", .ofOption .ofDouble s.lengthMax),
    ("mayBeEmpty", .bool s.mayBeEmpty),
    ("pattern", .ofOption .string s.pattern)]
  | number s => [
    ("min", .ofOption .ofDouble s.min),
    ("max", .ofOption .ofDouble s.max),
    ("mayBeEmpty", .bool s.mayBeEmpty)]
  | date s => [
    ("min", .ofOption Instant.specsJson s.min),
    ("max", .ofOption Instant.specsJson s.max),
    ("mayBeEmpty", .bool s.mayBeEmpty)]
  | email s => domainMembers s
  | url s => domainMembers s
  | json s => [("maxSize", .ofDouble s.maxSize), ("mayBeEmpty", .bool s.mayBeEmpty)]
  | select s => [
    ("allowedValues", .ofStrings s.allowedValues),
    ("multiple", .bool s.multiple),
    ("mayBeEmpty", .bool s.mayBeEmpty)]
  | relation s => [
    ("collection", .string s.collection),
    ("multiple", .bool s.multiple),
    ("mayBeEmpty", .bool s.mayBeEmpty)]

def toJson (s : Specs) : Json :=
  .object s.members

end Specs

end TableSchema
