/-!
# Blank characters

A label counts as missing when it holds blank characters only, and addresses and modes are read
with the blanks around them dropped.  Blank means the property `White_Space`.
-/

namespace MeshRegistry.Text

/-- The characters with the property `White_Space`. -/
def isBlank (c : Char) : Bool :=
  let n := c.toNat
  (9 ≤ n && n ≤ 13) || n == 0x20 || n == 0x85 || n == 0xA0 || n == 0x1680 ||
    (0x2000 ≤ n && n ≤ 0x200A) || n == 0x2028 || n == 0x2029 || n == 0x202F || n == 0x205F ||
    n == 0x3000

def trimEnd (s : List Char) : List Char :=
  (s.reverse.dropWhile isBlank).reverse

def trim (s : List Char) : List Char :=
  trimEnd (s.dropWhile isBlank)

def allBlank (s : List Char) : Bool :=
  s.all isBlank

end MeshRegistry.Text
