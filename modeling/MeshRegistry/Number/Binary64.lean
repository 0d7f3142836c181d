/-!
# Binary64 magnitudes

A magnitude is `mantissa * 2 ^ exponent` with at most 53 bits of mantissa.  Every operation is the
exact result rounded to the nearest such number, ties to the even mantissa; a result that is too
large has no value.
-/

namespace MeshRegistry.Number

/-- The magnitude `mantissa * 2 ^ exponent`. -/
structure Binary64 where
  mantissa : Nat
  exponent : Int
deriving DecidableEq, Repr

namespace Binary64

/-- The exponent of the smallest positive magnitude. -/
def leastExponent : Int := -1074

def greatestExponent : Int := 971

/-- The smallest mantissa of 53 bits. -/
def leastFull : Nat := 0x10000000000000

/-- The quotient to the nearest whole number, ties to even. -/
def roundQuotient (num den : Nat) : Nat :=
  let q := num / den
  let r := num % den
  if 2 * r < den then q
  else if 2 * r > den then q + 1
  else if q % 2 = 0 then q else q + 1

/-- The quotient `num / den` in units of `2 ^ e`. -/
def scaled (num den : Nat) (e : Int) : Nat × Nat :=
  if 0 ≤ e then (num, den * Nat.pow 2 e.toNat) else (num * Nat.pow 2 (-e).toNat, den)

/-- The exponent at which `num / den` has 53 bits, or the least one. -/
def exponentFor (num den : Nat) : Int :=
  let guess := (num.log2 : Int) - den.log2 - 52
  let (n, d) := scaled num den guess
  let e := if n / d < leastFull then guess - 1 else guess
  if e < leastExponent then leastExponent else e

/-- The magnitude nearest to `num / den`, if it is in range. -/
def ofRatio? (num den : Nat) : Option Binary64 :=
  if num = 0 then some ⟨0, 0⟩
  else
    let e := exponentFor num den
    let (n, d) := scaled num den e
    let m := roundQuotient n d
    let (m, e) := if m = 2 * leastFull then (leastFull, e + 1) else (m, e)
    if e ≤ greatestExponent then some ⟨m, e⟩ else none

def ratio (x : Binary64) : Nat × Nat :=
  if 0 ≤ x.exponent then (x.mantissa * Nat.pow 2 x.exponent.toNat, 1)
  else (x.mantissa, Nat.pow 2 (-x.exponent).toNat)

def mul? (x y : Binary64) : Option Binary64 :=
  ofRatio? (x.ratio.1 * y.ratio.1) (x.ratio.2 * y.ratio.2)

def div? (x y : Binary64) : Option Binary64 :=
  ofRatio? (x.ratio.1 * y.ratio.2) (x.ratio.2 * y.ratio.1)

def powerOfTen? (n : Nat) : Option Binary64 :=
  ofRatio? (Nat.pow 10 n) 1

end Binary64

end MeshRegistry.Number
