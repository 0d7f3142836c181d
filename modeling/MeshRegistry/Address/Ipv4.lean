import MeshRegistry.Address.Reading

/-!
# IPv4 addresses

Four numbers below 256 with points between them.  A number has no zero in front of other digits.
-/

namespace MeshRegistry

structure Ipv4 where
  a : UInt8
  b : UInt8
  c : UInt8
  d : UInt8
deriving DecidableEq, Repr, Inhabited

namespace Ipv4

open Address

def readOctet (s : List Char) : Option (UInt8 × List Char) :=
  let (ds, rest) := readDigits Text.decimalDigit? s
  let n := digitsValue 10 ds
  if ds.isEmpty ∨ 3 < ds.length ∨ 255 < n then none
  else if ds.head? = some 0 ∧ 1 < ds.length then none
  else some (UInt8.ofNat n, rest)

def read (s : List Char) : Option (Ipv4 × List Char) := do
  let (a, s) ← readOctet s
  let (b, s) ← readOctet (← readChar '.' s)
  let (c, s) ← readOctet (← readChar '.' s)
  let (d, s) ← readOctet (← readChar '.' s)
  return (⟨a, b, c, d⟩, s)

def text (ip : Ipv4) : List Char :=
  Nat.toDigits 10 ip.a.toNat ++ '.' :: Nat.toDigits 10 ip.b.toNat ++
    '.' :: Nat.toDigits 10 ip.c.toNat ++ '.' :: Nat.toDigits 10 ip.d.toNat

end Ipv4

end MeshRegistry
