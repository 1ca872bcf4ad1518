import TableSchema.Calendar.Instant
import TableSchema.Json.Value
import TableSchema.Number.Digits
import TableSchema.Text.Blank

/-!
# Reading dates

A date is a text or an integer, which counts milliseconds. A text is an RFC 3339 moment, with four digits
for the year, or a bare date `year-month-day`, which means its midnight in UTC. Blanks around a text do
not count.
-/

namespace TableSchema

namespace Instant

def mark? (c : Char) : List Char → Option (List Char)
  | [] => none
  | d :: s => if c = d then some s else none

/-- `digits-digits-digits`, all of fixed width. -/
def fullDate? (s : List Char) : Option (Date × List Char) := do
  let (year, s) ← fixedDigits? 4 s
  let (month, s) ← fixedDigits? 2 (← mark? '-' s)
  let (day, s) ← fixedDigits? 2 (← mark? '-' s)
  return (⟨year, month, day⟩, s)

/-- The nanoseconds that the digits behind a point spell; those after the ninth are cut. -/
def nanosOf (ds : List Nat) : Nat :=
  spelled ((ds ++ List.replicate 9 0).take 9)

def fraction? : List Char → Option (Nat × List Char)
  | '.' :: s => (digits? s).map fun (ds, s) => (nanosOf ds, s)
  | s => some (0, s)

/-- Seconds of the day, nanoseconds, rest. Second 60 is a leap second, in any minute. -/
def timeOfDay? (s : List Char) : Option (Nat × Nat × List Char) := do
  let (hour, s) ← fixedDigits? 2 s
  let (minute, s) ← fixedDigits? 2 (← mark? ':' s)
  let (second, s) ← fixedDigits? 2 (← mark? ':' s)
  let (nanos, s) ← fraction? s
  if hour < 24 ∧ minute < 60 ∧ second ≤ 60 then
    let start := 3600 * hour + 60 * minute
    if second = 60 then return (start + 59, nanos + 1000000000, s)
    else return (start + second, nanos, s)
  else none

/-- Minutes ahead of UTC. The sign may be a hyphen or a true minus, U+2212. -/
def offset? : List Char → Option (Int × List Char)
  | [] => none
  | c :: s =>
    if c = 'Z' ∨ c = 'z' then some (0, s)
    else do
      let sign : Int ← if c = '+' then some 1
        else if c = '-' ∨ c.toNat = 0x2212 then some (-1) else none
      let (hours, s) ← fixedDigits? 2 s
      let (minutes, s) ← fixedDigits? 2 (← mark? ':' s)
      if hours < 24 ∧ minutes < 60 then return (sign * (60 * hours + minutes), s) else none

def isDateTimeMark (c : Char) : Bool :=
  c == 'T' || c == 't' || c == ' '

def rfc3339? (s : List Char) : Option Instant := do
  let (date, s) ← fullDate? s
  match s with
  | c :: s =>
    if isDateTimeMark c then
      let (second, nanos, s) ← timeOfDay? s
      let (offset, s) ← offset? s
      if date.isValid ∧ s = [] then
        ofParts? (86400 * date.toDays + second - 60 * offset) nanos
      else none
    else none
  | [] => none

/-- A year of up to four digits, or a sign and any number of digits. -/
def year? (s : List Char) : Option (Int × List Char) :=
  match s.dropWhile isBlank with
  | '-' :: s => (digits? s).map fun (ds, s) => (-(spelled ds : Int), s)
  | '+' :: s => (digits? s).map fun (ds, s) => ((spelled ds : Int), s)
  | s => (upToDigits? 4 s).map fun (y, s) => ((y : Int), s)

/-- A date alone; blanks may stand in front of each number. -/
def bareDate? (s : List Char) : Option Instant := do
  let (year, s) ← year? s
  let (month, s) ← upToDigits? 2 ((← mark? '-' s).dropWhile isBlank)
  let (day, s) ← upToDigits? 2 ((← mark? '-' s).dropWhile isBlank)
  let date : Date := ⟨year, month, day⟩
  if date.isValid ∧ s = [] then return ofDay date.toDays else none

def ofText? (s : List Char) : Option Instant :=
  (rfc3339? (trim s)).or (bareDate? (trim s))

def ofJson? : Json → Option Instant
  | .string s => ofText? s.toList
  | .number (.int n) => if n < Nat.pow 2 63 then ofMillis? n else none
  | _ => none

end Instant

end TableSchema
