import MeshRegistry.Time.Calendar

/-!
# Instants

A clock counts milliseconds since the start of 1970.  Its text is the date and time of day in UTC,
to the millisecond; a count beyond the last date that can be written stands for the start of 1970.
-/

namespace MeshRegistry.Time

/-- The first count of milliseconds that no date is written for. -/
def endOfTime : Nat := 8210266876800000

def padded (width n : Nat) : List Char :=
  let digits := Nat.toDigits 10 n
  List.replicate (width - digits.length) '0' ++ digits

/-- A year of four digits, or of more behind a plus sign. -/
def yearText (year : Nat) : List Char :=
  if year ≤ 9999 then padded 4 year else '+' :: Nat.toDigits 10 year

/-- The date and time of day, so many milliseconds after the start of 1970. -/
def instantText (millis : Nat) : List Char :=
  let millis := if millis < endOfTime then millis else 0
  let date := Date.ofDays (millis / 86400000)
  let ofDay := millis % 86400000
  yearText date.year ++ '-' :: padded 2 date.month ++ '-' :: padded 2 date.day ++
    'T' :: padded 2 (ofDay / 3600000) ++ ':' :: padded 2 (ofDay / 60000 % 60) ++
    ':' :: padded 2 (ofDay / 1000 % 60) ++ '.' :: padded 3 (ofDay % 1000) ++ ['Z']

structure Clock where
  millis : UInt64
deriving DecidableEq, Repr, Inhabited

def Clock.text (c : Clock) : String :=
  String.ofList (instantText c.millis.toNat)

end MeshRegistry.Time
