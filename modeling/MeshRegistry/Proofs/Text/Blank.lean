import Mathlib.Data.List.TakeWhile
import MeshRegistry.Text.Blank

/-!
# Texts without their blanks

What is left of a text when the blanks at its ends are dropped.
-/

namespace MeshRegistry.Text

/-- The code points with the property `White_Space`. -/
def whiteSpace : List Nat :=
  [0x09, 0x0A, 0x0B, 0x0C, 0x0D, 0x20, 0x85, 0xA0, 0x1680, 0x2000, 0x2001, 0x2002, 0x2003, 0x2004,
    0x2005, 0x2006, 0x2007, 0x2008, 0x2009, 0x200A, 0x2028, 0x2029, 0x202F, 0x205F, 0x3000]

theorem isBlank_iff_mem_whiteSpace {c : Char} : isBlank c = true ↔ c.toNat ∈ whiteSpace := by
  simp only [isBlank, whiteSpace, Bool.or_eq_true, Bool.and_eq_true, beq_iff_eq, decide_eq_true_eq,
    List.mem_cons, List.not_mem_nil, or_false]
  omega

theorem allBlank_eq (s : List Char) : allBlank s = s.all fun c => whiteSpace.contains c.toNat := by
  rw [allBlank]
  congr 1
  funext c
  rw [Bool.eq_iff_iff, isBlank_iff_mem_whiteSpace, List.contains_iff_mem]

theorem trimEnd_eq_nil_iff {s : List Char} : trimEnd s = [] ↔ allBlank s = true := by
  simp [trimEnd, allBlank, List.dropWhile_eq_nil_iff]

/-- A text that ends in a character of another kind has no blanks to lose there. -/
theorem trimEnd_concat {c : Char} (h : isBlank c = false) (s : List Char) :
    trimEnd (s ++ [c]) = s ++ [c] := by
  rw [trimEnd, List.reverse_concat, List.dropWhile_cons_of_neg (by simp [h]), ← List.reverse_concat,
    List.reverse_reverse]

/-- A text without blanks has none to lose. -/
theorem trim_eq_self {s : List Char} (h : ∀ c ∈ s, isBlank c = false) : trim s = s := by
  have hfront : s.dropWhile isBlank = s := by
    cases s with
    | nil => rfl
    | cons c s => rw [List.dropWhile_cons_of_neg (by simp [h c List.mem_cons_self])]
  rw [trim, hfront]
  rcases List.eq_nil_or_concat s with rfl | ⟨init, c, rfl⟩
  · rfl
  · rw [List.concat_eq_append] at h ⊢
    exact trimEnd_concat (h c (by simp)) init

theorem allBlank_dropWhile (s : List Char) :
    allBlank (s.dropWhile isBlank) = allBlank s := by
  induction s with
  | nil => rfl
  | cons c s ih =>
      by_cases h : isBlank c = true
      · rw [List.dropWhile_cons_of_pos h, ih]
        simp [allBlank, h]
      · rw [List.dropWhile_cons_of_neg h]

/-- Only a text of blanks trims to nothing. -/
theorem trim_eq_nil_iff {s : List Char} : trim s = [] ↔ allBlank s = true := by
  rw [trim, trimEnd_eq_nil_iff, allBlank_dropWhile]

end MeshRegistry.Text
