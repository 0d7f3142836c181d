import MeshRegistry.Text.Digit

/-!
# Reading numbers in addresses

Each reader takes what it needs from the front of a text and gives the rest back, or refuses and
takes nothing.
-/

namespace MeshRegistry.Address

def digitsValue (base : Nat) (digits : List Nat) : Nat :=
  digits.foldl (fun n d => base * n + d) 0

def readDigits (digit? : Char → Option Nat) : List Char → List Nat × List Char
  | [] => ([], [])
  | c :: rest =>
    match digit? c with
    | some d =>
      let (ds, r) := readDigits digit? rest
      (d :: ds, r)
    | none => ([], c :: rest)

def readChar (c : Char) : List Char → Option (List Char)
  | d :: rest => if d = c then some rest else none
  | [] => none

/-- A decimal number of any length up to a limit, zeros in front allowed. -/
def readBounded (limit : Nat) (s : List Char) : Option (Nat × List Char) :=
  let (ds, rest) := readDigits Text.decimalDigit? s
  let n := digitsValue 10 ds
  if ds.isEmpty ∨ limit < n then none else some (n, rest)

end MeshRegistry.Address
