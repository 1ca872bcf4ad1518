import TableSchema.Calendar.Instant
import TableSchema.Number.Digits

/-!
# Writing dates

RFC 3339 in UTC. Years outside of `0 … 9999` have a sign and at least four digits, and a leap second is
second 60.
-/

namespace TableSchema

namespace Instant

inductive Fraction where
  /-- Three digits, the others cut. -/
  | millis
  /-- The fewest of 0, 3, 6 and 9 digits that lose nothing. -/
  | exact
deriving DecidableEq, Repr

def yearText (y : Int) : List Char :=
  if 0 ≤ y ∧ y ≤ 9999 then padded 4 y.natAbs
  else (if y < 0 then '-' else '+') :: padded 4 y.natAbs

def fractionText (f : Fraction) (nanos : Nat) : List Char :=
  match f with
  | .millis => '.' :: padded 3 (nanos / 1000000)
  | .exact =>
    if nanos = 0 then []
    else if nanos % 1000000 = 0 then '.' :: padded 3 (nanos / 1000000)
    else if nanos % 1000 = 0 then '.' :: padded 6 (nanos / 1000)
    else '.' :: padded 9 nanos

/-- Date and time, without the offset. -/
def localText (f : Fraction) (t : Instant) : List Char :=
  let date := Date.ofDays (t.seconds / 86400)
  let second := (t.seconds % 86400).toNat
  yearText date.year ++ '-' :: padded 2 date.month ++ '-' :: padded 2 date.day ++
    'T' :: padded 2 (second / 3600) ++ ':' :: padded 2 (second / 60 % 60) ++
    ':' :: padded 2 (second % 60 + t.nanos / 1000000000) ++
    fractionText f (t.nanos % 1000000000)

/-- The text with `Z` for the offset. -/
def text (f : Fraction) (t : Instant) : String :=
  String.ofList (localText f t ++ ['Z'])

/-- The text with a numeric offset, in the exact form. -/
def offsetText (t : Instant) : String :=
  String.ofList (localText .exact t ++ ['+', '0', '0', ':', '0', '0'])

end Instant

end TableSchema
