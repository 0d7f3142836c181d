import MeshRegistry.Number.Binary64

/-!
# Shortest decimals

The text of a binary magnitude has the fewest digits that read back as the same magnitude, and of
those the nearest to it.
-/

namespace MeshRegistry.Number

structure Decimal where
  digits : Nat
  exponent : Int
deriving DecidableEq, Repr

namespace Binary64

/-- The value and the ends of the interval that rounds to it, as numerators over one denominator. -/
structure Interval where
  value : Nat
  low : Nat
  high : Nat
  den : Nat
  closed : Bool

def interval (x : Binary64) : Interval :=
  let below := if x.mantissa = leastFull ∧ leastExponent < x.exponent then 1 else 2
  let e := x.exponent - 2
  let (up, den) := if 0 ≤ e then (Nat.pow 2 e.toNat, 1) else (1, Nat.pow 2 (-e).toNat)
  { value := 4 * x.mantissa * up
    low := (4 * x.mantissa - below) * up
    high := (4 * x.mantissa + 2) * up
    den := den
    closed := x.mantissa % 2 = 0 }

def leadingPower (i : Interval) : Int :=
  (Nat.toDigits 10 (i.value * Nat.pow 10 400 / i.den)).length - 401

/-- Does `d * 10 ^ k` round to the magnitude? -/
def Interval.holds (i : Interval) (d : Nat) (k : Int) : Bool :=
  let (num, den) := if 0 ≤ k then (d * Nat.pow 10 k.toNat, 1) else (d, Nat.pow 10 (-k).toNat)
  let n := num * i.den
  0 < d && (i.low * den < n && n < i.high * den ||
    i.closed && (n == i.low * den || n == i.high * den))

/-- The neighbour of the value among the multiples of `10 ^ k` that reads back, the nearer if both
do. -/
def onGrid? (i : Interval) (k : Int) : Option Decimal :=
  let (num, den) :=
    if 0 ≤ k then (i.value, i.den * Nat.pow 10 k.toNat)
    else (i.value * Nat.pow 10 (-k).toNat, i.den)
  let d := num / den
  let r := num % den
  match i.holds d k, i.holds (d + 1) k with
  | true, false => some ⟨d, k⟩
  | false, true => some ⟨d + 1, k⟩
  | false, false => none
  | true, true =>
    if 2 * r < den ∨ 2 * r = den ∧ d % 2 = 0 then some ⟨d, k⟩ else some ⟨d + 1, k⟩

/-- The shortest decimal that reads back; seventeen digits always do. -/
def shortest (x : Binary64) : Decimal :=
  if x.mantissa = 0 then ⟨0, 0⟩
  else
    let i := x.interval
    let p := leadingPower i
    ((List.range 17).findSome? fun n : Nat => onGrid? i (p - n)).getD ⟨0, 0⟩

end Binary64

def Decimal.stripped (d : Decimal) : List Char × Int :=
  let all := Nat.toDigits 10 d.digits
  let kept := (all.reverse.dropWhile (· == '0')).reverse
  if kept.isEmpty then (['0'], 0) else (kept, d.exponent + (all.length - kept.length))

/-- Positional from `10 ^ -5` to below `10 ^ 16`, always with a point; else one digit before the
point and a signed exponent. -/
def Decimal.text (d : Decimal) : List Char :=
  let (digits, k) := d.stripped
  let p : Int := k + digits.length - 1
  if p < -5 ∨ 16 ≤ p then
    let mantissa := match digits with
      | a :: b :: rest => a :: '.' :: b :: rest
      | short => short
    let sign := if p < 0 then '-' else '+'
    mantissa ++ 'e' :: sign :: Nat.toDigits 10 p.natAbs
  else if 0 ≤ k then digits ++ List.replicate k.toNat '0' ++ ['.', '0']
  else if 0 ≤ p then digits.take (p.toNat + 1) ++ '.' :: digits.drop (p.toNat + 1)
  else '0' :: '.' :: List.replicate (-p - 1).toNat '0' ++ digits

end MeshRegistry.Number
