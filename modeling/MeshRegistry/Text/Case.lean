import MeshRegistry.Text.CaseTable

/-!
# Letter case

Two ways to fold a text to small letters: `lowerAscii` changes `A` to `Z` only, `lower` every
capital.  A capital sigma becomes the final form `ς` at the end of a word and `σ` elsewhere.
-/

namespace MeshRegistry.Text

def lowerAscii (s : List Char) : List Char :=
  s.map Char.toLower

def inRanges (ranges : List (Nat × Nat)) (n : Nat) : Bool :=
  ranges.any fun r => r.1 ≤ n && n ≤ r.2

/-- The small letters of one character that does not depend on its neighbours. -/
def lowerChar (c : Char) : List Char :=
  if c = 'İ' then ['i', '\u0307']
  else
    let n := c.toNat
    match smallLetters.find? fun r => r.1 ≤ n && n ≤ r.2.1 && (n - r.1) % r.2.2.1 == 0 with
    | some (first, _, _, small) => [Char.ofNat (small + (n - first))]
    | none => [c]

/-- The first character that is not `Case_Ignorable` exists and is `Cased`. -/
def meetsCased (s : List Char) : Bool :=
  match s.find? fun c => !inRanges caseIgnorableRanges c.toNat with
  | some c => inRanges casedRanges c.toNat
  | none => false

/-- Folds a text that stands behind `before`, which is given last character first. -/
def lowerAfter : List Char → List Char → List Char
  | _, [] => []
  | before, c :: rest =>
    let small :=
      if c = 'Σ' then [if meetsCased before && !meetsCased rest then 'ς' else 'σ'] else lowerChar c
    small ++ lowerAfter (c :: before) rest

def lower (s : List Char) : List Char :=
  lowerAfter [] s

end MeshRegistry.Text
