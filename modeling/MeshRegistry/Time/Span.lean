/-!
# Spans of time

A span is shown in the largest unit of which it holds at least one, with as many places as it needs.
-/

namespace MeshRegistry.Time

/-- The number `whole` with `part` behind its point, without zeros at the end. -/
def withPlaces (whole part places : Nat) : List Char :=
  if part = 0 then Nat.toDigits 10 whole
  else
    let digits := Nat.toDigits 10 part
    let all := List.replicate (places - digits.length) '0' ++ digits
    Nat.toDigits 10 whole ++ '.' :: (all.reverse.dropWhile (· == '0')).reverse

def spanText (nanos : Nat) : String :=
  String.ofList <|
    if 1000000000 ≤ nanos then withPlaces (nanos / 1000000000) (nanos % 1000000000) 9 ++ ['s']
    else if 1000000 ≤ nanos then withPlaces (nanos / 1000000) (nanos % 1000000) 6 ++ ['m', 's']
    else if 1000 ≤ nanos then withPlaces (nanos / 1000) (nanos % 1000) 3 ++ ['µ', 's']
    else Nat.toDigits 10 nanos ++ ['n', 's']

end MeshRegistry.Time
