/-!
# The calendar

Dates of the Gregorian calendar, counted from the first of January 1970.  Four hundred years always
have the same number of days, so only the years left over are counted one by one.
-/

namespace MeshRegistry.Time

def isLeap (year : Nat) : Bool :=
  year % 4 = 0 && (year % 100 ≠ 0 || year % 400 = 0)

def yearLength (year : Nat) : Nat :=
  if isLeap year then 366 else 365

/-- The days of the months of a year. -/
def monthLengths (year : Nat) : List Nat :=
  [31, if isLeap year then 29 else 28, 31, 30, 31, 30, 31, 31, 30, 31, 30, 31]

def cycleLength : Nat := 146097

/-- A date; months and days count from one. -/
structure Date where
  year : Nat
  month : Nat
  day : Nat
deriving DecidableEq, Repr

/-- The year that a day falls into, counted from the start of `year`, and its place in that year. -/
def yearAndDay (year days : Nat) : Nat × Nat :=
  if days < yearLength year then (year, days)
  else yearAndDay (year + 1) (days - yearLength year)
termination_by days
decreasing_by
  have : 0 < yearLength year := by unfold yearLength; split <;> omega
  omega

/-- The month that a day of a year falls into, counted from `month`, and its place in that month. -/
def monthAndDay (month : Nat) (days : Nat) : List Nat → Nat × Nat
  | [] => (month, days)
  | length :: rest =>
    if days < length then (month, days) else monthAndDay (month + 1) (days - length) rest

/-- The date that lies so many days after the first of January 1970. -/
def Date.ofDays (days : Nat) : Date :=
  let (year, inYear) := yearAndDay (1970 + 400 * (days / cycleLength)) (days % cycleLength)
  let (month, inMonth) := monthAndDay 1 inYear (monthLengths year)
  ⟨year, month, inMonth + 1⟩

end MeshRegistry.Time
