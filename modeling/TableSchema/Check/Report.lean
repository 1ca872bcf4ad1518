/-!
# Reports

A report holds the results of the four checks of every field. Its errors are grouped by label: a label
keeps the place where it comes first, and the last field with it decides what is said.
-/

namespace TableSchema

inductive Check where
  /-- The key occurs once. -/
  | unique
  /-- Id, order, and what else goes around a descriptor. -/
  | wrapper
  /-- Key, type and title of the descriptor. -/
  | base
  /-- The shape of the specs. -/
  | specs
deriving DecidableEq, Repr

namespace Check

def all : List Check :=
  [unique, wrapper, base, specs]

def name : Check → String
  | unique => "unique"
  | wrapper => "wrapper"
  | base => "base"
  | specs => "specs"

def message : Check → String
  | unique => "Field key is not unique"
  | wrapper => "Field wrapper failed validation"
  | base => "Base settings failed validation"
  | specs => "Specifications failed validation"

end Check

/-- What a field is called: by its key or, if it has none, by its position. -/
inductive Label where
  | key (k : String)
  | index (i : Nat)
deriving DecidableEq, Repr

/-- Keys are quoted and positions are not, so that no key reads as a position. -/
def Label.text : Label → String
  | key k => "\"" ++ k ++ "\""
  | index i => "#" ++ toString i

structure FieldChecks where
  index : Nat
  key : Option String
  unique : Bool
  wrapper : Bool
  base : Bool
  specs : Bool
deriving DecidableEq, Repr

namespace FieldChecks

def label (f : FieldChecks) : Label :=
  match f.key with
  | some k => .key k
  | none => .index f.index

def passed (f : FieldChecks) : Check → Bool
  | .unique => f.unique
  | .wrapper => f.wrapper
  | .base => f.base
  | .specs => f.specs

def ok (f : FieldChecks) : Bool :=
  f.unique && f.wrapper && f.base && f.specs

def failed (f : FieldChecks) : List Check :=
  Check.all.filter (!f.passed ·)

def messages (f : FieldChecks) : List String :=
  f.failed.map (·.message)

end FieldChecks

structure Failure where
  label : Label
  check : Check
deriving DecidableEq, Repr

structure Report where
  fields : List FieldChecks
deriving DecidableEq, Repr

namespace Report

def failures (r : Report) : List Failure :=
  r.fields.flatMap fun f => f.failed.map fun c => ⟨f.label, c⟩

def ok (r : Report) : Bool :=
  r.failures.isEmpty

/-- Puts messages under a label, in the place that it has already. -/
def setMessages (label : Label) (messages : List String) :
    List (Label × List String) → List (Label × List String)
  | [] => [(label, messages)]
  | (l, ms) :: rest =>
    if l = label then (label, messages) :: rest else (l, ms) :: setMessages label messages rest

/-- The messages of every label, failed or not. -/
def grouped (r : Report) : List (Label × List String) :=
  r.fields.foldl (fun groups f => setMessages f.label f.messages groups) []

def errors (r : Report) : List (Label × List String) :=
  r.grouped.filter fun group => !group.2.isEmpty

def errorText (group : Label × List String) : String :=
  group.1.text ++ ": " ++ ",".intercalate group.2 ++ ";"

def errorsText (r : Report) : String :=
  String.join (r.errors.map errorText)

def message (r : Report) : String :=
  "Schema validation failed. " ++ r.errorsText

def errorCode : String := "SCHEMA_VALIDATION_FAILED"

def errorStatus : Nat := 400

end Report

end TableSchema
