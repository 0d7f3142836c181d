/-!
# UTF-8

Bytes and characters.  `decode` refuses surrogates, overlong forms and anything past U+10FFFF, so
it is the partial inverse of `encode`.
-/

namespace MeshRegistry.Text

/-- A sequence of bytes, as a connection carries it. -/
abbrev Bytes := List UInt8

namespace Utf8

def encode (s : List Char) : Bytes :=
  s.flatMap String.utf8EncodeChar

/-- The six payload bits of a continuation byte. -/
def continuation? (b : UInt8) : Option Nat :=
  if b.toNat / 64 = 2 then some (b.toNat % 64) else none

/-- The character with a code point, provided it needs at least `least`. -/
def scalar? (least n : Nat) : Option Char :=
  if h : n.isValidChar then
    if least ≤ n then some (Char.ofNatAux n h) else none
  else none

/-- The text that bytes stand for, if they are well formed. -/
def decode : Bytes → Option (List Char)
  | [] => some []
  | a :: rest =>
    let lead := a.toNat
    if lead < 0x80 then do
      return (← scalar? 0 lead) :: (← decode rest)
    else if lead < 0xC0 then none
    else if lead < 0xE0 then
      match rest with
      | b :: rest => do
        let b ← continuation? b
        return (← scalar? 0x80 ((lead - 0xC0) * 64 + b)) :: (← decode rest)
      | _ => none
    else if lead < 0xF0 then
      match rest with
      | b :: c :: rest => do
        let b ← continuation? b
        let c ← continuation? c
        return (← scalar? 0x800 (((lead - 0xE0) * 64 + b) * 64 + c)) :: (← decode rest)
      | _ => none
    else if lead < 0xF8 then
      match rest with
      | b :: c :: d :: rest => do
        let b ← continuation? b
        let c ← continuation? c
        let d ← continuation? d
        return (← scalar? 0x10000 ((((lead - 0xF0) * 64 + b) * 64 + c) * 64 + d)) ::
          (← decode rest)
      | _ => none
    else none

end Utf8

def bytes (s : String) : Bytes :=
  Utf8.encode s.toList

def ofBytes? (b : Bytes) : Option String :=
  (Utf8.decode b).map String.ofList

end MeshRegistry.Text
