import MeshRegistry.Http.Authority

/-!
# Request targets

A request names a path, possibly behind the address of a host, or a host alone, or everything.  What
follows a question mark or a number sign is no part of the path.
-/

namespace MeshRegistry.Http

/-- The longest target, in bytes. -/
def maxTarget : Nat := 65534

def isPathChar (c : Char) : Bool :=
  let n := c.toNat
  n == 0x21 || n == 0x22 || (0x24 ≤ n && n ≤ 0x3B) || n == 0x3D || (0x40 ≤ n && n ≤ 0x5F) ||
    (0x61 ≤ n && n ≤ 0x7E) || 0x80 ≤ n

def isQueryChar (c : Char) : Bool :=
  let n := c.toNat
  n == 0x21 || (0x24 ≤ n && n ≤ 0x3B) || n == 0x3D || (0x3F ≤ n && n ≤ 0x7E) || 0x80 ≤ n

def endsHost (c : Char) : Bool :=
  c = '/' || c = '?' || c = '#'

def beforeFragment (s : List Char) : List Char :=
  s.takeWhile (· != '#')

/-- The path in front of a query, if all characters of both may stand there. -/
def pathBeforeQuery? (s : List Char) : Option (List Char) :=
  let s := beforeFragment s
  let path := s.takeWhile (· != '?')
  let query := s.dropWhile (· != '?')
  if path.all isPathChar ∧ query.all isQueryChar then some path else none

def isSchemeChar (c : Char) : Bool :=
  c.isAlphanum || "+-.~".toList.contains c

def maxScheme : Nat := 64

/-- The name of the scheme of a target that has one, and what follows it. -/
def splitScheme? (s : List Char) : Option (List Char × List Char) :=
  match s.dropWhile isSchemeChar with
  | ':' :: '/' :: '/' :: rest => some (s.takeWhile isSchemeChar, rest)
  | _ => none

def pathBehindHost? (s : List Char) : Option (List Char) :=
  let host := s.takeWhile (!endsHost ·)
  if host.isEmpty ∨ !isAuthority host then none
  else
    (pathBeforeQuery? (s.dropWhile (!endsHost ·))).map fun path =>
      if path.isEmpty then ['/'] else path

/-- The path of a target, empty when it names a host alone, and `none` for what is no target. -/
def targetPath? (s : List Char) : Option (List Char) :=
  if maxTarget < (String.ofList s).utf8ByteSize then none
  else
    match s with
    | [] => none
    | ['*'] => some ['*']
    | '/' :: _ => pathBeforeQuery? s
    | _ =>
      match splitScheme? s with
      | none => if isAuthority s then some [] else none
      | some (scheme, rest) => if maxScheme < scheme.length then none else pathBehindHost? rest

def isMethod (s : String) : Bool :=
  !s.isEmpty && s.toList.all fun c => c.isAlphanum || "!#$%&'*+-.^_`|~".toList.contains c

end MeshRegistry.Http
