/-!
# Parts of a text

A text cut at every character of a kind.  There is one part more than there are such characters.
-/

namespace MeshRegistry.Text

/-- The parts between the characters that `isBorder` says. -/
def splitParts (isBorder : Char → Bool) : List Char → List (List Char)
  | [] => [[]]
  | c :: rest =>
    match splitParts isBorder rest with
    | part :: parts => if isBorder c then [] :: part :: parts else (c :: part) :: parts
    | [] => [[]]

theorem splitParts_ne_nil (isBorder : Char → Bool) (s : List Char) :
    splitParts isBorder s ≠ [] := by
  cases s with
  | nil => simp [splitParts]
  | cons c rest =>
    rw [splitParts]
    split
    · split <;> simp
    · simp

/-- A text without borders is its only part. -/
theorem splitParts_eq_singleton {isBorder : Char → Bool} {s : List Char}
    (h : ∀ c ∈ s, isBorder c = false) : splitParts isBorder s = [s] := by
  induction s with
  | nil => rfl
  | cons c rest ih =>
    rw [splitParts, ih fun d hd => h d (List.mem_cons_of_mem _ hd)]
    simp [h c List.mem_cons_self]

end MeshRegistry.Text
