import MeshRegistry.Text.Utf8

/-!
# Arguments

The system hands an argument over as bytes.  Most of them spell a text.  In the others the dashes, a
name and an equals sign can still be told, but they have no value that could be read.
-/

namespace MeshRegistry.CommandLine

/-- An argument: a text, or bytes that spell none. -/
inductive Argument where
  | text (s : String)
  | bytes (b : Text.Bytes) (spellsNone : Text.ofBytes? b = none)
deriving DecidableEq, Repr

namespace Argument

/-- The argument that the system hands over as these bytes. -/
def ofBytes (b : Text.Bytes) : Argument :=
  match h : Text.ofBytes? b with
  | some s => text s
  | none => bytes b h

def toBytes : Argument → Text.Bytes
  | text s => Text.bytes s
  | bytes b _ => b

def text? : Argument → Option String
  | text s => some s
  | bytes .. => none

end Argument

/-- The word behind two dashes. -/
def behindDashes? {α : Type} [BEq α] (dash : α) : List α → Option (List α)
  | a :: b :: word => if a == dash && b == dash then some word else none
  | _ => none

/-- A word up to its first sign, and what stands behind that sign if there is one. -/
def splitAtSign {α : Type} [BEq α] (sign : α) (word : List α) : List α × Option (List α) :=
  (word.takeWhile (· != sign),
    match word.dropWhile (· != sign) with
    | [] => none
    | _ :: behind => some behind)

namespace Argument

/-- The name of a long option, if it is a text, and the value behind the equals sign. -/
def long? : Argument → Option (Option String × Option Argument)
  | text s => (behindDashes? '-' s.toList).map fun word =>
    let (name, value) := splitAtSign '=' word
    (some (String.ofList name), value.map fun v => text (String.ofList v))
  | bytes b _ => (behindDashes? 0x2D b).map fun word =>
    let (name, value) := splitAtSign 0x3D word
    (Text.ofBytes? name, value.map ofBytes)

/-- The first of the letters behind a single dash.  In bytes that spell no text only a letter of one
byte is told, since no other is an option. -/
def short? : Argument → Option (Option Char)
  | text s =>
    match s.toList with
    | '-' :: c :: _ => if c = '-' then none else some (some c)
    | _ => none
  | bytes b _ =>
    match b with
    | 0x2D :: c :: _ =>
      if c = 0x2D then none
      else some (if c.toNat < 0x80 then some (Char.ofNat c.toNat) else none)
    | _ => none

end Argument

end MeshRegistry.CommandLine
