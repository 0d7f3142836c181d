import MeshRegistry.Http.Percent
import MeshRegistry.Text.Parts

/-!
# Addresses of pages

What a client makes of the text of an address: whom to connect to and what to ask for.  Blanks at
the ends and line breaks are dropped, a backslash counts as a slash, the parts `.` and `..` are
carried out, and what may not stand in a path is spelled with percent signs.
-/

namespace MeshRegistry.Http

structure Url where
  host : List Char
  target : List Char
deriving DecidableEq, Repr

namespace Url

/-- The text without what is dropped from every address. -/
def cleaned (s : List Char) : List Char :=
  let isDropped (c : Char) : Bool := c.toNat ≤ 0x20
  let s := s.dropWhile isDropped
  let s := (s.reverse.dropWhile isDropped).reverse
  s.filter fun c => c ≠ '\t' ∧ c ≠ '\n' ∧ c ≠ '\r'

def isSlash (c : Char) : Bool := c = '/' || c = '\\'

def behindScheme? (s : List Char) : Option (List Char) :=
  let name := (s.takeWhile (· != ':')).map Char.toLower
  if name = "http".toList ∨ name = "https".toList then
    match s.dropWhile (· != ':') with
    | _ :: rest => some (rest.dropWhile isSlash)
    | [] => none
  else none

def endsHost (c : Char) : Bool := isSlash c || c = '?' || c = '#'

def isHostChar (c : Char) : Bool :=
  !(c.toNat ≤ 0x20 || c.toNat = 0x7F || "#/<>?\\^|".toList.contains c)

def isReservedInPath (c : Char) : Bool :=
  c.toNat ≤ 0x20 || 0x7F ≤ c.toNat || "\"#<>?`\x7b\x7d".toList.contains c

def isReservedInQuery (c : Char) : Bool :=
  c.toNat ≤ 0x20 || 0x7F ≤ c.toNat || "\"#<>'".toList.contains c

/-- The ways to write a part that stays where it is. -/
def hereParts : List (List Char) := [".", "%2e"].map String.toList

/-- The ways to write a part that goes one part back. -/
def backParts : List (List Char) := ["..", ".%2e", "%2e.", "%2e%2e"].map String.toList

/-- Carries out the parts that stay or go back; `before` holds the parts in front, last first. -/
def resolve (before : List (List Char)) : List (List Char) → List (List Char)
  | [] => before.reverse
  | part :: rest =>
    let lower := part.map Char.toLower
    let before :=
      if backParts.contains lower then (if rest.isEmpty then [] :: before.tail else before.tail)
      else if hereParts.contains lower then (if rest.isEmpty then [] :: before else before)
      else part :: before
    resolve before rest

/-- The path that the text behind a host stands for. -/
def pathOf (s : List Char) : List Char :=
  let s := match s with
    | c :: rest => if isSlash c then rest else s
    | [] => []
  (resolve [] ((Text.splitParts isSlash s).map (percentEncode isReservedInPath))).flatMap ('/' :: ·)

def parse? (s : List Char) : Option Url := do
  let rest ← behindScheme? (cleaned s)
  let host := rest.takeWhile (!endsHost ·)
  if host.isEmpty ∨ !host.all isHostChar then none
  let behind := (rest.dropWhile (!endsHost ·)).takeWhile (· != '#')
  let query := percentEncode isReservedInQuery (behind.dropWhile (· != '?'))
  return { host := host, target := pathOf (behind.takeWhile (· != '?')) ++ query }

end Url

end MeshRegistry.Http
