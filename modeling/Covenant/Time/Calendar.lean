namespace Covenant

/-- A day of the Gregorian calendar, extended to the years before it was in use. -/
structure Date where
  year : Nat
  month : Nat
  day : Nat
  deriving DecidableEq, Repr

namespace Date

def lastYear : Nat := 9999

def isLeap (year : Nat) : Bool := year % 4 == 0 && (year % 100 != 0 || year % 400 == 0)

def monthLengths (year : Nat) : List Nat :=
  [31, if isLeap year then 29 else 28, 31, 30, 31, 30, 31, 31, 30, 31, 30, 31]

def monthLength (year month : Nat) : Nat := (monthLengths year).getD (month - 1) 0

def ofParts? (year month day : Nat) : Option Date :=
  if 1 ≤ year ∧ year ≤ lastYear ∧ 1 ≤ month ∧ month ≤ 12 ∧ 1 ≤ day ∧ day ≤ monthLength year month
  then some ⟨year, month, day⟩ else none

/-- The number of days in the years before one. -/
def daysBefore (year : Nat) : Nat :=
  let y := year - 1
  365 * y + y / 4 - y / 100 + y / 400

/-- The place of a day in its year, the first day being 1. -/
def dayOfYear (d : Date) : Nat := ((monthLengths d.year).take (d.month - 1)).foldl (· + ·) d.day

/-- The number of a day, the first day of the year 1 being 1. -/
def ordinal (d : Date) : Nat := daysBefore d.year + d.dayOfYear

def lastOrdinal : Nat := daysBefore (lastYear + 1)

/-- The month, counted from the given one, and the day in it after so many days. -/
def splitMonths : List Nat → Nat → Nat → Nat × Nat
  | [], month, n => (month, n + 1)
  | len :: rest, month, n =>
    if n < len then (month, n + 1) else splitMonths rest (month + 1) (n - len)

/-- The year in which so many days have passed since the first day of the year 1. -/
def yearAfter (n : Nat) : Nat :=
  -- in the 400 years that a cycle has, the estimate is at most one year early
  let low := n / 146097 * 400 + n % 146097 / 366 + 1
  if daysBefore (low + 1) ≤ n then low + 1 else low

def ofOrdinal? (n : Int) : Option Date :=
  if 1 ≤ n ∧ n ≤ lastOrdinal then
    let n := n.toNat - 1
    let year := yearAfter n
    let (month, day) := splitMonths (monthLengths year) 1 (n - daysBefore year)
    some ⟨year, month, day⟩
  else none

/-- The day of the week, Monday being 0. -/
def weekday (d : Date) : Nat := (d.ordinal + 6) % 7

/-- The number of weeks in a year when weeks belong to the year of their Thursday. -/
def isoWeeks (year : Nat) : Nat :=
  -- the year has 53 weeks when it begins or ends on a Thursday
  let first := (daysBefore year + 7) % 7
  if first = 3 ∨ (first = 2 ∧ isLeap year) then 53 else 52

/-- The year a day's week belongs to, and the number of the week in it. -/
def isoWeek (d : Date) : Nat × Nat :=
  let week := (d.dayOfYear + 9 - d.weekday) / 7
  if week = 0 then (d.year - 1, isoWeeks (d.year - 1))
  else if isoWeeks d.year < week then (d.year + 1, 1)
  else (d.year, week)

/-- The week of the year when weeks start on Sunday; days before the first Sunday are in week 0. -/
def sundayWeek (d : Date) : Nat := (d.dayOfYear + 6 - (d.weekday + 1) % 7) / 7

/-- The week of the year when weeks start on Monday; days before the first Monday are in week 0. -/
def mondayWeek (d : Date) : Nat := (d.dayOfYear + 6 - d.weekday) / 7

end Date
end Covenant
