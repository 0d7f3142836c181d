/-!
# Messages as text

The values that replies and documents are made of, and the one text each of them is written as: no
blanks, members in the order given, and only those characters escaped that have to be.
-/

namespace MeshRegistry.Json

inductive Value where
  | null
  | bool (b : Bool)
  | int (n : Int)
  | text (s : String)
  | list (items : List Value)
  | object (members : List (String × Value))
deriving Repr, Inhabited

def hexDigit (n : Nat) : Char :=
  Nat.digitChar n

def escaped (c : Char) : List Char :=
  if c = '"' then ['\\', '"']
  else if c = '\\' then ['\\', '\\']
  else if c = '\x08' then ['\\', 'b']
  else if c = '\x0c' then ['\\', 'f']
  else if c = '\n' then ['\\', 'n']
  else if c = '\r' then ['\\', 'r']
  else if c = '\t' then ['\\', 't']
  else if c.toNat < 0x20 then
    ['\\', 'u', '0', '0', hexDigit (c.toNat / 16), hexDigit (c.toNat % 16)]
  else [c]

def writeString (s : String) : List Char :=
  '"' :: s.toList.flatMap escaped ++ ['"']

def writeInt : Int → List Char
  | .ofNat n => Nat.toDigits 10 n
  | .negSucc n => '-' :: Nat.toDigits 10 (n + 1)

mutual

def Value.write : Value → List Char
  | .null => "null".toList
  | .bool true => "true".toList
  | .bool false => "false".toList
  | .int n => writeInt n
  | .text s => writeString s
  | .list items => '[' :: writeItems items ++ [']']
  | .object members => '\x7b' :: writeMembers members ++ ['\x7d']

def writeItems : List Value → List Char
  | [] => []
  | [v] => v.write
  | v :: rest => v.write ++ ',' :: writeItems rest

def writeMembers : List (String × Value) → List Char
  | [] => []
  | [(name, v)] => writeString name ++ ':' :: v.write
  | (name, v) :: rest => writeString name ++ ':' :: v.write ++ ',' :: writeMembers rest

end

def Value.render (v : Value) : String :=
  String.ofList v.write

end MeshRegistry.Json
