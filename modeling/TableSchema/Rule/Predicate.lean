import TableSchema.Json.Document
import TableSchema.Rule.Email
import TableSchema.Rule.Url
import TableSchema.Shape
import TableSchema.StoredField

/-!
# Predicates

A predicate is a check of a value that no static rule expresses. It always has an outcome: a value passes
or is rejected for a reason.
-/

namespace TableSchema

inductive Predicate where
  /-- The pattern of this text occurs in the value. -/
  | pattern (source : String)
  | dateRange (min max : Option Instant)
  | email (domains : DomainSpecs)
  | url (domains : DomainSpecs) (stripWww : Bool)
  /-- JSON text of at most so many bytes. -/
  | json (maxSize : Option Nat)
  | recordId (allowEmpty : Bool)
  | recordIdList
deriving DecidableEq, Repr

inductive Rejection where
  | invalidPattern | patternMismatch
  | invalidDate | dateOutOfRange
  | invalidEmail | emailDomain
  | invalidUrl | urlDomain
  | invalidJson | jsonTooLarge
  | invalidId | invalidIds
deriving DecidableEq, Repr

def Rejection.message : Rejection → String
  | invalidPattern => "Invalid pattern"
  | patternMismatch => "Value does not match pattern"
  | invalidDate => "Invalid date format"
  | dateOutOfRange => "Date is out of allowed range"
  | invalidEmail => "Invalid email format"
  | emailDomain => "Email domain is not allowed"
  | invalidUrl => "Invalid URL format"
  | urlDomain => "URL domain is not allowed"
  | invalidJson => "Invalid JSON format"
  | jsonTooLarge => "JSON exceeds maximum size"
  | invalidId => "Invalid ID format"
  | invalidIds => "One or more IDs are invalid"

inductive Outcome where
  | pass
  | reject (reason : Rejection)
deriving DecidableEq, Repr

namespace Outcome

def passed : Outcome → Bool
  | pass => true
  | reject _ => false

def details : Outcome → String
  | pass => ""
  | reject reason => reason.message

def require (ok : Bool) (reason : Rejection) : Outcome :=
  if ok then pass else reject reason

theorem require_eq_pass_iff (ok : Bool) (reason : Rejection) : require ok reason = pass ↔ ok = true := by
  cases ok <;> simp [require]

theorem require_eq_reject_iff (ok : Bool) (reason other : Rejection) :
    require ok reason = reject other ↔ ok = false ∧ reason = other := by
  cases ok <;> simp [require]

theorem require_cases (ok : Bool) (reason : Rejection) :
    require ok reason = pass ∨ require ok reason = reject reason := by
  cases ok with
  | false => exact Or.inr rfl
  | true => exact Or.inl rfl

end Outcome

def isRecordId (s : String) : Bool :=
  s.length == recordIdLength

namespace Predicate

/-! ## Predicates from specs -/

def ofEmailSpecs (s : DomainSpecs) : Predicate :=
  email (s.normal false)

def ofUrlSpecs (s : DomainSpecs) (stripWww : Bool) : Predicate :=
  url (s.normal stripWww) stripWww

/-! ## Checks -/

/-- Null and the empty text pass where a value may be empty; a text is checked, and nothing else will do. -/
def checkText (mayBeEmpty : Bool) (invalid : Rejection) (check : List Char → Outcome) : Json → Outcome
  | .null => .require mayBeEmpty invalid
  | .string s => if s = "" then .require mayBeEmpty invalid else check s.toList
  | _ => .reject invalid

/-- A source that is no pattern rejects every value. -/
def checkPattern (source : String) (v : Json) : Outcome :=
  match Pattern.read? source with
  | none => .reject .invalidPattern
  | some p => checkText true .patternMismatch (fun s => .require (p.foundIn s) .patternMismatch) v

def checkDateRange (min max : Option Instant) (v : Json) : Outcome :=
  if v.isNull then .pass else
  match Instant.ofJson? v with
  | none => .reject .invalidDate
  | some t => .require (min.all (·.notAfter t) && max.all t.notAfter) .dateOutOfRange

def checkEmail (domains : DomainSpecs) (s : List Char) : Outcome :=
  if Email.isAddress s then
    .require (domains.permits (String.ofList (Email.domain s))) .emailDomain
  else .reject .invalidEmail

def checkUrl (domains : DomainSpecs) (stripWww : Bool) (s : List Char) : Outcome :=
  if Url.isUrl s then
    .require (domains.permits (String.ofList (Url.hostOf stripWww s))) .urlDomain
  else .reject .invalidUrl

/-- Blank text passes; size comes before syntax. -/
def checkJson (maxSize : Option Nat) : Json → Outcome
  | .string s =>
    if s.toList.all isBlank then .pass
    else if maxSize.any (· < s.utf8ByteSize) then .reject .jsonTooLarge
    else .require (Document.read? s.toList).isSome .invalidJson
  | _ => .reject .invalidJson

def checkRecordId (allowEmpty : Bool) : Json → Outcome
  | .null => .require allowEmpty .invalidId
  | .string s => .require ((s = "" ∧ allowEmpty) ∨ isRecordId s) .invalidId
  | _ => .reject .invalidId

def checkRecordIdList (v : Json) : Outcome :=
  .require (v.array?.any fun items => items.all fun id => id.string?.any isRecordId) .invalidIds

def check : Predicate → Json → Outcome
  | pattern source, v => checkPattern source v
  | dateRange min max, v => checkDateRange min max v
  | email domains, v => checkText domains.mayBeEmpty .invalidEmail (checkEmail domains) v
  | url domains strip, v => checkText domains.mayBeEmpty .invalidUrl (checkUrl domains strip) v
  | json maxSize, v => checkJson maxSize v
  | recordId allowEmpty, v => checkRecordId allowEmpty v
  | recordIdList, v => checkRecordIdList v

/-! ## Written form -/

def name : Predicate → String
  | pattern _ => "pattern"
  | dateRange _ _ => "dateRange"
  | email _ => "email"
  | url _ _ => "url"
  | json _ => "json"
  | recordId _ => "recordId"
  | recordIdList => "recordIdList"

def dateJson (t : Instant) : Json :=
  .string (t.text .exact)

def parameters : Predicate → List (String × Json)
  | pattern source => [("pattern", .string source)]
  | dateRange min max => [("min", .ofOption dateJson min), ("max", .ofOption dateJson max)]
  | email domains => Specs.domainMembers domains
  | url domains strip => Specs.domainMembers domains ++ [("stripWww", .bool strip)]
  | json maxSize => [("maxSize", .ofOption (fun n => .ofInt n) maxSize)]
  | recordId allowEmpty => [("allowEmpty", .bool allowEmpty)]
  | recordIdList => []

def toJson (p : Predicate) : Json :=
  .object (("name", .string p.name) :: p.parameters)

end Predicate

end TableSchema
