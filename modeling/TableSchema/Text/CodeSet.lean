/-!
# Sets and maps of code points

The tables of the text modules are written as words: `41-5a` is a range, `100-12e/2` every second code
point of a range, `b5` a single one, all in hexadecimal. A map adds the image of the first code point,
as in `41-5a=61`; the others of the run are shifted by the same distance.
-/

namespace TableSchema

/-- The code points `first`, `first + step`, … up to `last`. -/
structure Run where
  first : Nat
  last : Nat
  step : Nat
deriving DecidableEq, Repr

def Run.contains (r : Run) (n : Nat) : Bool :=
  r.first ≤ n && n ≤ r.last && (n - r.first) % r.step == 0

def hexDigit? (c : Char) : Option Nat :=
  if '0' ≤ c ∧ c ≤ '9' then some (c.toNat - '0'.toNat)
  else if 'a' ≤ c ∧ c ≤ 'f' then some (c.toNat - 'a'.toNat + 10)
  else if 'A' ≤ c ∧ c ≤ 'F' then some (c.toNat - 'A'.toNat + 10)
  else none

def ofHex (s : List Char) : Nat :=
  s.foldl (fun n c => 16 * n + (hexDigit? c).getD 0) 0

def Run.ofText (s : List Char) : Run :=
  let (range, step) := match s.splitOn '/' with
    | [range, step] => (range, ofHex step)
    | _ => (s, 1)
  match range.splitOn '-' with
  | [first, last] => ⟨ofHex first, ofHex last, step⟩
  | _ => ⟨ofHex range, ofHex range, step⟩

abbrev CodeSet := List Run

def CodeSet.ofText (s : String) : CodeSet :=
  (s.toList.splitOn ' ').map Run.ofText

def CodeSet.ofLines (lines : List String) : CodeSet :=
  lines.flatMap ofText

def CodeSet.contains (s : CodeSet) (c : Char) : Bool :=
  s.any (Run.contains · c.toNat)

/-- A run of code points with the image of its first one. -/
structure Shift where
  run : Run
  image : Nat
deriving DecidableEq, Repr

abbrev CodeMap := List Shift

def Shift.ofText (s : List Char) : Shift :=
  match s.splitOn '=' with
  | [run, image] => ⟨Run.ofText run, ofHex image⟩
  | _ => ⟨Run.ofText s, (Run.ofText s).first⟩

def CodeMap.ofLines (lines : List String) : CodeMap :=
  lines.flatMap fun line => (line.toList.splitOn ' ').map Shift.ofText

def CodeMap.get? (m : CodeMap) (c : Char) : Option Char :=
  (m.find? (·.run.contains c.toNat)).map fun s => Char.ofNat (s.image + (c.toNat - s.run.first))

/-- Every character that the map sends to `c`. -/
def CodeMap.sources (m : CodeMap) (c : Char) : List Char :=
  m.filterMap fun s =>
    let n := s.run.first + (c.toNat - s.image)
    if s.image ≤ c.toNat ∧ s.run.contains n then some (Char.ofNat n) else none

end TableSchema
