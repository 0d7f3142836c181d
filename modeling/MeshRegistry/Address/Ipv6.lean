import MeshRegistry.Address.Ipv4

/-!
# IPv6 addresses

Eight groups of 16 bits.  The text leaves out the longest run of two or more zero groups, the first
of them on a tie, and shows an address that maps an IPv4 address with that address at its end.
Reading admits every such run, and an IPv4 address in place of the last two groups.
-/

namespace MeshRegistry

structure Ipv6 where
  groups : List UInt16
  length_groups : groups.length = 8
deriving DecidableEq, Repr

namespace Ipv6

open Address

instance : Inhabited Ipv6 := ⟨⟨List.replicate 8 0, by decide⟩⟩

/-- One group: one to four hexadecimal digits. -/
def readGroup (s : List Char) : Option (UInt16 × List Char) :=
  let (ds, rest) := readDigits Text.hexDigit? s
  if ds.isEmpty ∨ 4 < ds.length then none else some (UInt16.ofNat (digitsValue 16 ds), rest)

def groupsOfIpv4 (ip : Ipv4) : List UInt16 :=
  [UInt16.ofNat (ip.a.toNat * 256 + ip.b.toNat), UInt16.ofNat (ip.c.toNat * 256 + ip.d.toNat)]

/-- At most `left` groups with colons between them, and whether an IPv4 address ended them. -/
def readGroups (left : Nat) (isFirst : Bool) (s : List Char) : List UInt16 × Bool × List Char :=
  match left with
  | 0 => ([], false, s)
  | left + 1 =>
    match if isFirst then some s else readChar ':' s with
    | none => ([], false, s)
    | some t =>
      match if left = 0 then none else Ipv4.read t with
      | some (ip, rest) => (groupsOfIpv4 ip, true, rest)
      | none =>
        match readGroup t with
        | none => ([], false, s)
        | some (g, rest) =>
          let (gs, mapped, rest) := readGroups left false rest
          (g :: gs, mapped, rest)

def ofGroups? (groups : List UInt16) : Option Ipv6 :=
  if h : groups.length = 8 then some ⟨groups, h⟩ else none

def read (s : List Char) : Option (Ipv6 × List Char) :=
  let (front, mapped, rest) := readGroups 8 true s
  if front.length = 8 then (ofGroups? front).map (·, rest)
  else if mapped then none
  else do
    let rest ← readChar ':' (← readChar ':' rest)
    let (back, _, rest) := readGroups (7 - front.length) true rest
    let zeros := List.replicate (8 - front.length - back.length) 0
    (ofGroups? (front ++ zeros ++ back)).map (·, rest)

def zerosInFront (groups : List UInt16) : Nat :=
  (groups.takeWhile (· == 0)).length

/-- Place and length of the longest run of zero groups, the first of them on a tie. -/
def longestRun (groups : List UInt16) : Nat × Nat :=
  (List.range groups.length).foldl
    (fun best i =>
      let n := zerosInFront (groups.drop i)
      if best.2 < n then (i, n) else best)
    (0, 0)

def joined : List UInt16 → List Char
  | [] => []
  | [g] => Nat.toDigits 16 g.toNat
  | g :: rest => Nat.toDigits 16 g.toNat ++ ':' :: joined rest

/-- The IPv4 address that an address maps. -/
def mapped? (ip : Ipv6) : Option Ipv4 :=
  match ip.groups with
  | [0, 0, 0, 0, 0, 0xFFFF, x, y] =>
    some ⟨UInt8.ofNat (x.toNat / 256), UInt8.ofNat (x.toNat % 256), UInt8.ofNat (y.toNat / 256),
      UInt8.ofNat (y.toNat % 256)⟩
  | _ => none

def text (ip : Ipv6) : List Char :=
  match ip.mapped? with
  | some v4 => [':', ':', 'f', 'f', 'f', 'f', ':'] ++ v4.text
  | none =>
    let (start, length) := longestRun ip.groups
    if 1 < length then
      joined (ip.groups.take start) ++ [':', ':'] ++ joined (ip.groups.drop (start + length))
    else joined ip.groups

end Ipv6

end MeshRegistry
