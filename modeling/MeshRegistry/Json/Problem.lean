import MeshRegistry.Text.Quoted
import MeshRegistry.Number.Shortest

/-!
# What can be wrong with a message

A message is read from left to right, and the first problem met is the one reported.  Where in the
message it was met, by line and column, is not kept.
-/

namespace MeshRegistry.Json

inductive Found where
  | boolean (b : Bool)
  | natural (n : Nat)
  | negative (n : Nat)
  | real (isNegative : Bool) (magnitude : Number.Binary64)
  | text (s : String)
  | null
  | sequence
  | map
deriving DecidableEq, Repr

def Found.words : Found → String
  | .boolean b => "boolean `" ++ (if b then "true" else "false") ++ "`"
  | .natural n => "integer `" ++ n.repr ++ "`"
  | .negative n => "integer `-" ++ n.repr ++ "`"
  | .real isNegative m =>
    "floating point `" ++ (if isNegative then "-" else "") ++ String.ofList m.shortest.text ++ "`"
  | .text s => "string " ++ Text.quoted s
  | .null => "null"
  | .sequence => "sequence"
  | .map => "map"

inductive Problem where
  | endOfValue
  | endOfString
  | endOfObject
  | endOfList
  | expectedValue
  | expectedWord
  | expectedColon
  | expectedCommaOrBrace
  | expectedCommaOrBracket
  | trailingComma
  | trailingCharacters
  | keyNotString
  | invalidNumber
  | numberOutOfRange
  | invalidEscape
  | loneSurrogate
  | endOfEscape
  | controlCharacter
  | tooDeep
  | wrongType (found : Found) (expected : String)
  | outOfRange (found : Found) (expected : String)
  | wrongLength (length : Nat) (record : String) (fields : Nat)
  | missingField (name : String)
  | duplicateField (name : String)
  | unknownVariant (found : String) (known : List String)
deriving DecidableEq, Repr

/-- The text ended early, is not well formed, or holds the wrong data. -/
inductive Category where
  | early
  | malformed
  | data
deriving DecidableEq, Repr

namespace Problem

def category : Problem → Category
  | endOfValue | endOfString | endOfObject | endOfList => .early
  | wrongType .. | outOfRange .. | wrongLength .. | missingField .. | duplicateField ..
  | unknownVariant .. => .data
  | _ => .malformed

def alternatives : List String → String
  | [a] => "`" ++ a ++ "`"
  | [a, b] => "`" ++ a ++ "` or `" ++ b ++ "`"
  | names => "one of " ++ ", ".intercalate (names.map fun name => "`" ++ name ++ "`")

/-- The text of a problem up to its place: the ` at line L column C` behind it is left out. -/
def message : Problem → String
  | endOfValue => "EOF while parsing a value"
  | endOfString => "EOF while parsing a string"
  | endOfObject => "EOF while parsing an object"
  | endOfList => "EOF while parsing a list"
  | expectedValue => "expected value"
  | expectedWord => "expected ident"
  | expectedColon => "expected `:`"
  | expectedCommaOrBrace => "expected `,` or `\x7d`"
  | expectedCommaOrBracket => "expected `,` or `]`"
  | trailingComma => "trailing comma"
  | trailingCharacters => "trailing characters"
  | keyNotString => "key must be a string"
  | invalidNumber => "invalid number"
  | numberOutOfRange => "number out of range"
  | invalidEscape => "invalid escape"
  | loneSurrogate => "lone leading surrogate in hex escape"
  | endOfEscape => "unexpected end of hex escape"
  | controlCharacter => "control character (\\u0000-\\u001F) found while parsing a string"
  | tooDeep => "recursion limit exceeded"
  | wrongType found expected => "invalid type: " ++ found.words ++ ", expected " ++ expected
  | outOfRange found expected => "invalid value: " ++ found.words ++ ", expected " ++ expected
  | wrongLength length record fields =>
    "invalid length " ++ length.repr ++ ", expected struct " ++ record ++ " with " ++ fields.repr ++
      (if fields = 1 then " element" else " elements")
  | missingField name => "missing field `" ++ name ++ "`"
  | duplicateField name => "duplicate field `" ++ name ++ "`"
  | unknownVariant found known =>
    "unknown variant `" ++ found ++ "`, expected " ++ alternatives known

end Problem

end MeshRegistry.Json
