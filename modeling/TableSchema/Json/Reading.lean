import TableSchema.Json.Document
import TableSchema.Json.Value

/-!
# Values of JSON text

A number without point and exponent is an integer if it lies in `[-2⁶³, 2⁶⁴)`; all others, `-0` among them,
are doubles. The digits of a double are taken as long as their value fits 64 bits, that value is rounded,
and then scaled by a power of ten, which is rounded again.
-/

namespace TableSchema

/-! ## Strings -/

/-- The text of a string; UTF-16 surrogates have to come in pairs. -/
def textOf : List Piece → Option (List Char)
  | [] => some []
  | .char c :: rest => (textOf rest).map (c :: ·)
  | .unit n :: .unit m :: rest =>
    if 0xd800 ≤ n ∧ n < 0xdc00 then
      if 0xdc00 ≤ m ∧ m < 0xe000 then
        (textOf rest).map (Char.ofNat (0x10000 + (n - 0xd800) * 0x400 + (m - 0xdc00)) :: ·)
      else none
    else if 0xdc00 ≤ n ∧ n < 0xe000 then none
    else (textOf (.unit m :: rest)).map (Char.ofNat n :: ·)
  | .unit n :: rest =>
    if 0xd800 ≤ n ∧ n < 0xe000 then none
    else (textOf rest).map (Char.ofNat n :: ·)

/-! ## Numbers -/

namespace Numeral

/-- The value of the digits that fit 64 bits, and the number of the others. -/
def gatherWhole (ds : List Nat) : Nat × Nat :=
  ds.foldl (fun (sum, skipped) d =>
    if skipped = 0 ∧ 10 * sum + d < Nat.pow 2 64 then (10 * sum + d, 0) else (sum, skipped + 1)) (0, 0)

/-- Goes on with the digits of a fraction: the value, and the number of digits that fit. -/
def gatherFraction (sum : Nat) : List Nat → Nat × Nat
  | [] => (sum, 0)
  | d :: ds =>
    if 10 * sum + d < Nat.pow 2 64 then
      let (total, taken) := gatherFraction (10 * sum + d) ds
      (total, taken + 1)
    else (sum, 0)

def powerOfTen (k : Nat) : Double :=
  (Double.ofRatio? false (Nat.pow 10 k) 1).getD (Double.largest false)

/-- `x · 10 ^ e` in steps of at most 308 powers; none beyond the largest double. A number of 64 bits is
zero after two steps down. -/
def scale : Nat → Double → Int → Option Double
  | fuel, x, e =>
    if e.natAbs ≤ 308 then
      if 0 ≤ e then x.mul? (powerOfTen e.natAbs) else x.div? (powerOfTen e.natAbs)
    else if x.isZero then some x
    else if 0 ≤ e then none
    else match fuel with
      | 0 => some (Double.zero false)
      | fuel + 1 => (x.div? (powerOfTen 308)).bind fun y => scale fuel y (e + 308)

/-- The absolute value of a numeral as a double. -/
def magnitude? (n : Numeral) : Option Double :=
  let (sum, skipped) := gatherWhole n.whole
  let (sum, taken) := gatherFraction sum n.fraction
  let shift : Int := (skipped : Int) - taken
  let x := Double.ofInt sum
  match n.exponent with
  | none => scale 2 x shift
  | some (negative, ds) =>
    let e := spelled ds
    if e < Nat.pow 2 31 then scale 2 x (if negative then shift - e else shift + e)
    else if negative ∨ x.isZero then some (Double.zero false)
    else none

/-- The integer that a numeral without point and exponent is held as. -/
def int? (n : Numeral) : Option Int :=
  let value := spelled n.whole
  if n.fraction = [] ∧ n.exponent = none then
    if n.negative then (if value ≠ 0 ∧ value ≤ Nat.pow 2 63 then some (-(value : Int)) else none)
    else if value < Nat.pow 2 64 then some (value : Int)
    else none
  else none

def toNumber? (n : Numeral) : Option Json.Number :=
  match n.int? with
  | some i => some (.int i)
  | none => n.magnitude?.map fun x => .double (if n.negative then x.neg else x)

end Numeral

/-! ## Values -/

mutual

def Document.toJson? : Document → Option Json
  | .null => some .null
  | .bool b => some (.bool b)
  | .number n => n.toNumber?.map .number
  | .string s => (textOf s).map fun cs => .string (String.ofList cs)
  | .array items => (itemsToJson? items).map .array
  | .object members => (membersToJson? members).map Json.ofMembers

def itemsToJson? : List Document → Option (List Json)
  | [] => some []
  | d :: rest => do
    let v ← d.toJson?
    let vs ← itemsToJson? rest
    return v :: vs

def membersToJson? : List (List Piece × Document) → Option (List (String × Json))
  | [] => some []
  | (name, d) :: rest => do
    let name ← textOf name
    let v ← d.toJson?
    let vs ← membersToJson? rest
    return (String.ofList name, v) :: vs

end

def Json.read? (s : String) : Option Json :=
  (Document.read? s.toList).bind Document.toJson?

end TableSchema
