import TableSchema.Number.Shortest

/-!
# JSON values

A number is an integer or a double, and the two are told apart: `1` is not `1.0`. The members of an
object read from text are sorted by name and have distinct names, see `ofMembers`; `get?` finds the first
member of a name.
-/

namespace TableSchema

namespace Json

inductive Number where
  | int (n : Int)
  | double (x : Double)
deriving DecidableEq, Repr

def Number.toDouble : Number → Double
  | .int n => Double.ofInt n
  | .double x => x

/-- The integer that a number is held as, if it has 64 bits with its sign. -/
def Number.int64? : Number → Option Int
  | .int n => if minInt64 ≤ n ∧ n ≤ maxInt64 then some n else none
  | .double _ => none

def Number.isNonNegative : Number → Bool
  | .int n => 0 ≤ n
  | .double x => x.isNonNegative

def Number.text : Number → String
  | .int n => toString n
  | .double x => x.text

end Json

inductive Json where
  | null
  | bool (b : Bool)
  | number (n : Json.Number)
  | string (s : String)
  | array (items : List Json)
  | object (members : List (String × Json))
deriving Repr, Inhabited

namespace Json

/-- What a value is, apart from its content. -/
inductive Kind where
  | null | bool | number | string | array | object
deriving DecidableEq, Repr

def Kind.name : Kind → String
  | .null => "null"
  | .bool => "bool"
  | .number => "number"
  | .string => "string"
  | .array => "array"
  | .object => "object"

def kind : Json → Kind
  | .null => .null
  | .bool _ => .bool
  | .number _ => .number
  | .string _ => .string
  | .array _ => .array
  | .object _ => .object

def isNull : Json → Bool
  | .null => true
  | _ => false

def isBool : Json → Bool
  | .bool _ => true
  | _ => false

def isString : Json → Bool
  | .string _ => true
  | _ => false

def isNumber : Json → Bool
  | .number _ => true
  | _ => false

def bool? : Json → Option Bool
  | .bool b => some b
  | _ => none

def string? : Json → Option String
  | .string s => some s
  | _ => none

def number? : Json → Option Number
  | .number n => some n
  | _ => none

def array? : Json → Option (List Json)
  | .array items => some items
  | _ => none

def object? : Json → Option (List (String × Json))
  | .object members => some members
  | _ => none

def get? (name : String) : Json → Option Json
  | .object members => members.lookup name
  | _ => none

def strings? (v : Json) : Option (List String) :=
  v.array?.bind (·.mapM string?)

def ofStrings (items : List String) : Json :=
  .array (items.map .string)

def ofInt (n : Int) : Json :=
  .number (.int n)

def ofDouble (x : Double) : Json :=
  .number (.double x)

/-- The value, or null for none. -/
def ofOption {α : Type} (f : α → Json) : Option α → Json
  | some a => f a
  | none => .null

/-- Puts a member into a list sorted by name, in the place of one with the same name. -/
def insertMember (name : String) (value : Json) : List (String × Json) → List (String × Json)
  | [] => [(name, value)]
  | (k, v) :: rest =>
    if name < k then (name, value) :: (k, v) :: rest
    else if name = k then (name, value) :: rest
    else (k, v) :: insertMember name value rest

/-- The object with these members; of two with the same name the later one counts. -/
def ofMembers (members : List (String × Json)) : Json :=
  .object (members.foldl (fun sorted m => insertMember m.1 m.2 sorted) [])

end Json

end TableSchema
