/-!
# Addresses of hosts

The part of a target that says whom to ask: a host, perhaps a user with an at sign in front, perhaps
a port with a colon behind.  A host in brackets may hold colons, and a user may hold colons and
percent signs; otherwise there is one colon at most and no percent sign.
-/

namespace MeshRegistry.Http

/-- May the character stand in an address without a meaning of its own? -/
def isHostChar (c : Char) : Bool :=
  c.isAlphanum || "-._~!$&'()*+,;=".toList.contains c

def maxColons : Nat := 8

/-- What has been met in an address: colons and percent signs since its last part began, and
brackets. -/
structure AuthorityScan where
  colons : Nat
  hasPercent : Bool
  isOpened : Bool
  isClosed : Bool
deriving DecidableEq, Repr

namespace AuthorityScan

def start : AuthorityScan := ⟨0, false, false, false⟩

def meet? (s : AuthorityScan) (c : Char) : Option AuthorityScan :=
  match c with
  | ':' => if s.colons < maxColons then some { s with colons := s.colons + 1 } else none
  | '[' => if s.hasPercent || s.isOpened then none else some { s with isOpened := true }
  | ']' => if s.isOpened && !s.isClosed then some ⟨0, false, true, true⟩ else none
  | '@' => some { s with colons := 0, hasPercent := false }
  | '%' => some { s with hasPercent := true }
  | c => if isHostChar c then some s else none

def isComplete (s : AuthorityScan) : Bool :=
  s.isOpened == s.isClosed && decide (s.colons ≤ 1) && !s.hasPercent

end AuthorityScan

/-- Is the text an address?  Nothing at all is one, but an at sign has something behind it. -/
def isAuthority (s : List Char) : Bool :=
  (s.foldlM AuthorityScan.meet? .start).any (·.isComplete) && s.getLast? != some '@'

end MeshRegistry.Http
