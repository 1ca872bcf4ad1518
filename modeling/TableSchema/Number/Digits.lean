import TableSchema.Text.Property

/-!
# Decimal digits

Runs of ASCII digits at the front of a text, and numbers written with a fixed number of digits.
-/

namespace TableSchema

def digitValue (c : Char) : Nat :=
  c.toNat - '0'.toNat

/-- The digits at the front of a text, and the rest. -/
def leadingDigits (s : List Char) : List Nat × List Char :=
  ((s.takeWhile isAsciiDigit).map digitValue, s.dropWhile isAsciiDigit)

/-- At least one digit. -/
def digits? (s : List Char) : Option (List Nat × List Char) :=
  match leadingDigits s with
  | ([], _) => none
  | (ds, s) => some (ds, s)

def spelled (ds : List Nat) : Nat :=
  ds.foldl (fun v d => 10 * v + d) 0

def fixedDigits? (n : Nat) (s : List Char) : Option (Nat × List Char) :=
  let front := s.take n
  if front.length = n ∧ front.all isAsciiDigit then some (spelled (front.map digitValue), s.drop n)
  else none

/-- Between one digit and `n`, as many as there are. -/
def upToDigits? (n : Nat) (s : List Char) : Option (Nat × List Char) :=
  match (s.take n).takeWhile isAsciiDigit with
  | [] => none
  | front => some (spelled (front.map digitValue), s.drop front.length)

/-- `n` in at least `width` digits. -/
def padded (width n : Nat) : List Char :=
  let ds := Nat.toDigits 10 n
  List.replicate (width - ds.length) '0' ++ ds

end TableSchema
