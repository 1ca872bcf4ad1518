/-!
# Calendar dates

The Gregorian calendar, extended to all years, with days counted from the first of January 1970.
-/

namespace TableSchema

structure Date where
  year : Int
  month : Nat
  day : Nat
deriving DecidableEq, Repr

namespace Date

def isLeapYear (y : Int) : Bool :=
  y % 4 == 0 && (y % 100 != 0 || y % 400 == 0)

/-- Days of the year in front of a month. -/
def monthStart (leap : Bool) (month : Nat) : Nat :=
  let extra := if leap then 1 else 0
  match month with
  | 0 => 0
  | 1 => 0
  | 2 => 31
  | 3 => 59 + extra
  | 4 => 90 + extra
  | 5 => 120 + extra
  | 6 => 151 + extra
  | 7 => 181 + extra
  | 8 => 212 + extra
  | 9 => 243 + extra
  | 10 => 273 + extra
  | 11 => 304 + extra
  | 12 => 334 + extra
  | _ => 365 + extra

def monthLength (leap : Bool) (month : Nat) : Nat :=
  monthStart leap (month + 1) - monthStart leap month

def yearStart (y : Int) : Int :=
  365 * (y - 1) + (y - 1) / 4 - (y - 1) / 100 + (y - 1) / 400 - 719162

def firstYear : Int := -262143

def lastYear : Int := 262142

/-- The date exists and its year is one that dates are kept for. -/
def isValid (d : Date) : Bool :=
  firstYear ≤ d.year && d.year ≤ lastYear && 1 ≤ d.month && d.month ≤ 12 && 1 ≤ d.day &&
    d.day ≤ monthLength (isLeapYear d.year) d.month

def toDays (d : Date) : Int :=
  yearStart d.year + monthStart (isLeapYear d.year) d.month + d.day - 1

/-- The year of a day: whole cycles of 400, 100, 4 and single years. The last day of a cycle stays in it. -/
def yearOf (days : Int) : Int :=
  let n := days + 719162
  let r := n % 146097
  let centuries := min (r / 36524) 3
  let r := r - 36524 * centuries
  let fours := r / 1461
  let r := r % 1461
  let ones := min (r / 365) 3
  400 * (n / 146097) + 100 * centuries + 4 * fours + ones + 1

def ofDays (days : Int) : Date :=
  let year := yearOf days
  let leap := isLeapYear year
  let rest := (days - yearStart year).toNat
  let month := ((List.range 12).filter fun i => monthStart leap (i + 1) ≤ rest).length
  ⟨year, month, rest - monthStart leap month + 1⟩

end Date

end TableSchema
