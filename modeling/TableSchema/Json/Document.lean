import TableSchema.Number.Digits
import TableSchema.Text.CodeSet

/-!
# JSON text

`Document` is the structure of a JSON text before anything is decoded: members keep their order, numbers
their digits, strings their escapes. `Document.read?` accepts the JSON grammar and nothing else, to any
depth.
-/

namespace TableSchema

/-- Blank between the tokens of JSON text. -/
def isJsonSpace (c : Char) : Bool :=
  c == ' ' || c == '\n' || c == '\t' || c == '\r'

def skipSpace (s : List Char) : List Char :=
  s.dropWhile isJsonSpace

/-- A character of a string, or the UTF-16 unit of a `\u` escape. -/
inductive Piece where
  | char (c : Char)
  | unit (n : Nat)
deriving DecidableEq, Repr

/-- The digits of a number. The fraction is empty when there is no point. -/
structure Numeral where
  negative : Bool
  whole : List Nat
  fraction : List Nat
  /-- Sign, true for minus, and digits. -/
  exponent : Option (Bool × List Nat)
deriving DecidableEq, Repr

inductive Document where
  | null
  | bool (b : Bool)
  | number (n : Numeral)
  | string (s : List Piece)
  | array (items : List Document)
  | object (members : List (List Piece × Document))
deriving Repr, Inhabited

namespace Document

/-! ## Numbers -/

/-- A whole part has no zero in front of other digits. -/
def whole? (s : List Char) : Option (List Nat × List Char) :=
  match digits? s with
  | some (0 :: _ :: _, _) => none
  | other => other

def fraction? : List Char → Option (List Nat × List Char)
  | '.' :: s => digits? s
  | s => some ([], s)

def sign : List Char → Bool × List Char
  | '-' :: s => (true, s)
  | '+' :: s => (false, s)
  | s => (false, s)

def exponent? : List Char → Option (Option (Bool × List Nat) × List Char)
  | c :: s =>
    if c = 'e' ∨ c = 'E' then
      let (negative, s) := sign s
      (digits? s).map fun (ds, s) => (some (negative, ds), s)
    else some (none, c :: s)
  | [] => some (none, [])

def numeral? (s : List Char) : Option (Numeral × List Char) := do
  let (negative, s) := match s with
    | '-' :: s => (true, s)
    | s => (false, s)
  let (whole, s) ← whole? s
  let (fraction, s) ← fraction? s
  let (exponent, s) ← exponent? s
  return (⟨negative, whole, fraction, exponent⟩, s)

/-! ## Strings -/

/-- The character that a backslash and `c` stand for. -/
def escape? (c : Char) : Option Char :=
  match c with
  | '"' => some '"'
  | '\\' => some '\\'
  | '/' => some '/'
  | 'b' => some '\x08'
  | 'f' => some '\x0c'
  | 'n' => some '\n'
  | 'r' => some '\r'
  | 't' => some '\t'
  | _ => none

def unit? (a b c d : Char) : Option Nat := do
  return ((← hexDigit? a) * 16 + (← hexDigit? b)) * 256 + (← hexDigit? c) * 16 + (← hexDigit? d)

/-- The rest of a string, behind its opening quote. -/
def pieces? : List Char → Option (List Piece × List Char)
  | [] => none
  | '"' :: s => some ([], s)
  | '\\' :: 'u' :: a :: b :: c :: d :: s => do
    let n ← unit? a b c d
    let (rest, s) ← pieces? s
    return (.unit n :: rest, s)
  | '\\' :: c :: s => do
    let c ← escape? c
    let (rest, s) ← pieces? s
    return (.char c :: rest, s)
  | c :: s =>
    if c.toNat < 0x20 then none
    else (pieces? s).map fun (rest, s) => (.char c :: rest, s)

/-! ## Values -/

mutual

/-- The value at the front of the text; `fuel` bounds the depth and length of what is read. -/
def value? : Nat → List Char → Option (Document × List Char)
  | 0, _ => none
  | fuel + 1, s =>
    match s with
    | 'n' :: 'u' :: 'l' :: 'l' :: s => some (.null, s)
    | 't' :: 'r' :: 'u' :: 'e' :: s => some (.bool true, s)
    | 'f' :: 'a' :: 'l' :: 's' :: 'e' :: s => some (.bool false, s)
    | '"' :: s => (pieces? s).map fun (p, s) => (.string p, s)
    | '[' :: s =>
      match skipSpace s with
      | ']' :: s => some (.array [], s)
      | s => (items? fuel s).map fun (items, s) => (.array items, s)
    | '{' :: s =>
      match skipSpace s with
      | '}' :: s => some (.object [], s)
      | s => (members? fuel s).map fun (members, s) => (.object members, s)
    | s => (numeral? s).map fun (n, s) => (.number n, s)

/-- The items of an array up to its closing bracket, at least one. -/
def items? : Nat → List Char → Option (List Document × List Char)
  | 0, _ => none
  | fuel + 1, s => do
    let (v, s) ← value? fuel s
    match skipSpace s with
    | ',' :: s =>
      let (rest, s) ← items? fuel (skipSpace s)
      return (v :: rest, s)
    | ']' :: s => return ([v], s)
    | _ => none

/-- The members of an object up to its closing brace, at least one. -/
def members? : Nat → List Char → Option (List (List Piece × Document) × List Char)
  | 0, _ => none
  | fuel + 1, s =>
    match s with
    | '"' :: s => do
      let (name, s) ← pieces? s
      match skipSpace s with
      | ':' :: s =>
        let (v, s) ← value? fuel (skipSpace s)
        match skipSpace s with
        | ',' :: s =>
          let (rest, s) ← members? fuel (skipSpace s)
          return ((name, v) :: rest, s)
        | '}' :: s => return ([(name, v)], s)
        | _ => none
      | _ => none
    | _ => none

end

def read? (s : List Char) : Option Document :=
  match value? (2 * s.length + 2) (skipSpace s) with
  | some (d, rest) => if skipSpace rest = [] then some d else none
  | none => none

end Document

end TableSchema
