import MeshRegistry.Text.Digit
import MeshRegistry.Text.Utf8

/-!
# Percent encoding

A part of a path spells bytes: a percent sign and two hexadecimal digits stand for one byte, and
every other character for its own.
-/

namespace MeshRegistry.Http

open Text (Bytes)

def percentSign : UInt8 := 37

/-- The bytes that a text spells.  A percent sign with no two digits behind it stands for itself. -/
def percentDecode : List Char → Bytes
  | [] => []
  | '%' :: a :: b :: rest =>
    match Text.hexDigit? a, Text.hexDigit? b with
    | some high, some low => UInt8.ofNat (16 * high + low) :: percentDecode rest
    | _, _ => percentSign :: percentDecode (a :: b :: rest)
  | c :: rest => String.utf8EncodeChar c ++ percentDecode rest

/-- The text that a part of a path spells, if its bytes are the bytes of one. -/
def spelledText? (s : List Char) : Option String :=
  Text.ofBytes? (percentDecode s)

def percentEncodeByte (b : UInt8) : List Char :=
  ['%', (Nat.digitChar (b.toNat / 16)).toUpper, (Nat.digitChar (b.toNat % 16)).toUpper]

/-- A text in which the characters that `isReserved` says are spelled byte by byte. -/
def percentEncode (isReserved : Char → Bool) (s : List Char) : List Char :=
  s.flatMap fun c =>
    if isReserved c then (String.utf8EncodeChar c).flatMap percentEncodeByte else [c]

end MeshRegistry.Http
