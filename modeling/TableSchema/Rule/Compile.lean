import TableSchema.Rule.RuleSet
import TableSchema.Text.NameOrder

/-!
# From specs to rules

Every field has one rule set, under its key. Where a key occurs twice, the later field counts.
-/

namespace TableSchema

structure CompileOptions where
  /-- JSON text longer than the specs allow is rejected. -/
  enforceJsonMaxSize : Bool := false
  /-- A `www.` in front of hosts does not count. -/
  stripWwwPrefix : Bool := true
deriving DecidableEq, Repr

namespace Compile

def forbidEmpty (mayBeEmpty : Bool) : Option Json :=
  if mayBeEmpty then none else some (.string "")

def provided {α : Type} (b : Bool) (p : α) : Option α :=
  if b then some p else none

def booleanRules (s : BooleanSpecs) : RuleSet :=
  .ofRules .boolean { is := provided s.onlyTrue (.bool true) }

def stringRules (s : StringSpecs) : RuleSet :=
  .ofRules .string {
    min := s.lengthMin.map .finite
    max := s.lengthMax.map .finite
    isNot := forbidEmpty s.mayBeEmpty
    custom := s.pattern.map .pattern }

def numberRules (s : NumberSpecs) : RuleSet :=
  .ofRules .number {
    min := some (.ofBound s.min)
    max := some (.ofBound s.max)
    isNot := provided (!s.mayBeEmpty) (.ofInt 0) }

def dateRules (s : DateSpecs) : RuleSet :=
  .ofRules .date {
    isNot := provided (!s.mayBeEmpty) .null
    custom := provided (s.min.isSome || s.max.isSome) (.dateRange s.min s.max) }

def emailRules (s : DomainSpecs) : RuleSet :=
  .ofRules .string {
    isNot := forbidEmpty s.mayBeEmpty
    custom := provided (s.mayBeEmpty || s.hasLists) (.ofEmailSpecs s) }

/-- A limit in whole bytes; limits from `2⁶⁴` on are the largest number below. -/
def byteLimit (maxSize : Double) : Nat :=
  min maxSize.floorNat (Nat.pow 2 64 - 1)

def jsonRules (o : CompileOptions) (s : JsonSpecs) : RuleSet :=
  .ofRules .string {
    isNot := forbidEmpty s.mayBeEmpty
    custom := some (.json (provided o.enforceJsonMaxSize (byteLimit s.maxSize))) }

def urlRules (o : CompileOptions) (s : DomainSpecs) : RuleSet :=
  .ofRules .string {
    isNot := forbidEmpty s.mayBeEmpty
    custom := provided s.hasLists (.ofUrlSpecs s o.stripWwwPrefix) }

/-- The values without repetitions, each where it comes first. -/
def distinct (values : List String) : List String :=
  values.foldl (fun seen v => if seen.contains v then seen else seen ++ [v]) []

/-- The values of a single choice: the empty text is among them exactly when a value may be empty. -/
def singleChoice (mayBeEmpty : Bool) (values : List String) : List String :=
  if mayBeEmpty then (if values.contains "" then values else values ++ [""])
  else values.filter (· != "")

def selectRules (s : SelectSpecs) : RuleSet :=
  let values := distinct s.allowedValues
  if s.multiple then
    .ofRules .arrayOfString {
      oneOf := provided (!values.isEmpty) values
      eachType := some .string
      isNot := forbidEmpty s.mayBeEmpty }
  else
    .ofRules .string {
      oneOf := some (singleChoice s.mayBeEmpty values)
      isNot := forbidEmpty s.mayBeEmpty }

def relationRules (s : RelationSpecs) : RuleSet :=
  if s.multiple then
    .ofRules .arrayOfString {
      eachType := some .string
      isNot := forbidEmpty s.mayBeEmpty
      custom := some .recordIdList }
  else
    .ofRules .string {
      isNot := forbidEmpty s.mayBeEmpty
      custom := some (.recordId s.mayBeEmpty) }

end Compile

def Specs.rules (o : CompileOptions) : Specs → RuleSet
  | boolean s => Compile.booleanRules s
  | string s => Compile.stringRules s
  | number s => Compile.numberRules s
  | date s => Compile.dateRules s
  | email s => Compile.emailRules s
  | json s => Compile.jsonRules o s
  | select s => Compile.selectRules s
  | url s => Compile.urlRules o s
  | relation s => Compile.relationRules s

/-- Rule sets by key, sorted. -/
abbrev RuleTable := List (String × RuleSet)

def lastWithKey? (fields : List StoredField) (key : String) : Option StoredField :=
  fields.reverse.find? (·.key == key)

/-- One rule set for every key of the fields. -/
def compile (o : CompileOptions) (fields : List StoredField) : RuleTable :=
  (sortedNames (fields.map (·.key))).filterMap fun key =>
    (lastWithKey? fields key).map fun f => (key, f.item.specs.rules o)

def RuleTable.toJson (t : RuleTable) : Json :=
  .object (t.map fun row => (row.1, row.2.toJson))

/-- An unknown type is an error of its own when fields are compiled. -/
inductive CompileError where
  | unknownType (tag : String)
  | field (e : SchemaError)
deriving DecidableEq, Repr

namespace CompileError

def ofSchemaError : SchemaError → CompileError
  | .unknownType tag => unknownType tag
  | e => field e

def code : CompileError → String
  | unknownType _ => "UNSUPPORTED_TYPE"
  | field e => e.code

def status : CompileError → Nat
  | unknownType _ => 400
  | field e => e.status

def message : CompileError → String
  | unknownType tag => (SchemaError.unknownType tag).message
  | field e => e.message

end CompileError

def compileJson (o : CompileOptions) (v : Json) : Except CompileError RuleTable :=
  match StoredField.listOfJson v with
  | .ok fields => .ok (compile o fields)
  | .error e => .error (.ofSchemaError e)

end TableSchema
