import TableSchema.Number.Double

/-!
# Shortest decimal text

A double is written with the fewest digits that read back as it. Of two candidates with as few digits the
nearer one is taken, and of two equally near the even one.
-/

namespace TableSchema

namespace Double

def reachesPower (num den : Nat) (p : Int) : Bool :=
  den * Nat.pow 10 p.toNat ≤ num * Nat.pow 10 (-p).toNat

/-- The exponent of the first decimal digit of `num / den`. -/
def leadingPower (num den : Nat) : Int :=
  let low : Int := (((num.log2 : Int) - den.log2 - 1) * 30103) / 100000 - 1
  low + ((List.range 5).filter fun (i : Nat) => reachesPower num den (low + i + 1)).length

/-- The numbers that round to a double, in quarters of its unit: `low / 4` to `high / 4` of a unit. -/
structure Basin where
  low : Nat
  high : Nat
  /-- The ends themselves round to the double. -/
  closed : Bool

def basin (x : Double) : Basin :=
  { low := 4 * x.mantissa - (if x.mantissa = Nat.pow 2 52 ∧ minExponent < x.exponent then 1 else 2)
    high := 4 * x.mantissa + 2
    closed := x.mantissa % 2 = 0 }

/-- `c · 10 ^ k` over a quarter of the unit of `x`, as a fraction. -/
def inQuarters (x : Double) (c : Nat) (k : Int) : Nat × Nat :=
  scaleDown (c * Nat.pow 10 k.toNat) (Nat.pow 10 (-k).toNat) (x.exponent - 2)

def roundsTo (x : Double) (c : Nat) (k : Int) : Bool :=
  let (n, d) := x.inQuarters c k
  let b := x.basin
  if b.closed then b.low * d ≤ n && n ≤ b.high * d else b.low * d < n && n < b.high * d

/-- The neighbours of `x` among the multiples of `10 ^ k`, the nearer one first. -/
def neighbours (x : Double) (k : Int) : List Nat :=
  let n := x.ratio.1 * Nat.pow 10 (-k).toNat
  let d := x.ratio.2 * Nat.pow 10 k.toNat
  let c := roundDiv n d
  let down := n / d
  if c = down then [down, down + 1] else [down + 1, down]

/-- Drops the zeros at the end of `c · 10 ^ k`. -/
def dropZeros : Nat → Nat → Int → Nat × Int
  | 0, c, k => (c, k)
  | fuel + 1, c, k => if c ≠ 0 ∧ c % 10 = 0 then dropZeros fuel (c / 10) (k + 1) else (c, k)

/-- The decimal `c · 10 ^ k` with the fewest digits that rounds to the absolute value of `x`. -/
def shortest (x : Double) : Nat × Int :=
  if x.isZero then (0, 0) else
  let p := leadingPower x.ratio.1 x.ratio.2
  let hit := (List.range 17).findSome? fun (n : Nat) =>
    let k := p - n
    ((x.neighbours k).find? (x.roundsTo · k)).map fun c => (c, k)
  let (c, k) := hit.getD (0, 0)
  dropZeros 18 c k

/-- Positional from `10⁻⁵` to below `10¹⁶` and always with a point; else one digit before the point and a
signed exponent. -/
def text (x : Double) : String :=
  let (c, k) := x.shortest
  let digits := Nat.toDigits 10 c
  let n : Int := digits.length
  let point := n + k
  let zeros (i : Int) : List Char := List.replicate i.toNat '0'
  let body : List Char :=
    if x.isZero then ['0', '.', '0']
    else if 0 ≤ k ∧ point ≤ 16 then digits ++ zeros k ++ ['.', '0']
    else if 0 < point ∧ point ≤ 16 then digits.take point.toNat ++ '.' :: digits.drop point.toNat
    else if -5 < point ∧ point ≤ 0 then '0' :: '.' :: zeros (-point) ++ digits
    else
      let fraction := match digits.drop 1 with
        | [] => []
        | rest => '.' :: rest
      let e := point - 1
      let sign := if e < 0 then '-' else '+'
      digits.take 1 ++ fraction ++ 'e' :: sign :: Nat.toDigits 10 e.natAbs
  String.ofList (if x.negative then '-' :: body else body)

end Double

end TableSchema
