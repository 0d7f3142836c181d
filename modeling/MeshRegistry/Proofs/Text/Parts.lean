import Mathlib.Data.List.Basic
import MeshRegistry.Text.Parts

/-!
# Where a text is cut

The parts between the borders of a text are free of borders and join up to the text again, and no
other parts do.  A text has one part in front of its first border and one behind its last.
-/

namespace MeshRegistry.Text

variable {border : Char}

/-! ## Parts that join up -/

/-- Only what stands in a text matters for where it is cut. -/
theorem splitParts_congr {isBorder isBorder' : Char → Bool} {s : List Char}
    (h : ∀ c ∈ s, isBorder c = isBorder' c) : splitParts isBorder s = splitParts isBorder' s := by
  induction s with
  | nil => rfl
  | cons c s ih =>
      rw [List.forall_mem_cons] at h
      rw [splitParts, splitParts, ih h.2, h.1]

theorem splitParts_eq_splitOn (border : Char) (s : List Char) :
    splitParts (· == border) s = s.splitOn border := by
  rw [List.splitOn_eq_splitOnP]
  induction s with
  | nil => rfl
  | cons c s ih =>
      obtain ⟨part, parts, hparts⟩ :=
        List.exists_cons_of_ne_nil (splitParts_ne_nil (· == border) s)
      rw [splitParts, List.splitOnP_cons_eq_if_modifyHead, ← ih, hparts, List.modifyHead_cons]

theorem not_mem_of_mem_splitOn {s part : List Char} (h : part ∈ s.splitOn border) :
    border ∉ part := by
  induction s generalizing part with
  | nil =>
      rw [List.splitOn_nil, List.mem_singleton] at h
      rw [h]
      exact List.not_mem_nil
  | cons c s ih =>
      obtain ⟨first, parts, hparts⟩ := List.exists_cons_of_ne_nil (List.splitOn_ne_nil border s)
      rw [List.splitOn_cons_eq_if_modifyHead, hparts] at h
      rw [hparts] at ih
      by_cases hc : c = border
      · rw [if_pos (beq_iff_eq.2 hc), List.mem_cons] at h
        rcases h with rfl | h
        · exact List.not_mem_nil
        · exact ih h
      · rw [if_neg (by simpa using hc), List.modifyHead_cons, List.mem_cons] at h
        rcases h with rfl | h
        · have hfirst : border ∉ first := ih List.mem_cons_self
          simp [hfirst, Ne.symm hc]
        · exact ih (List.mem_cons_of_mem first h)

/-- A text has these parts just when they are free of borders and join up to it. -/
theorem splitParts_eq_iff {s : List Char} {parts : List (List Char)} (hne : parts ≠ []) :
    splitParts (· == border) s = parts ↔
      (∀ part ∈ parts, border ∉ part) ∧ s = [border].intercalate parts := by
  rw [splitParts_eq_splitOn]
  constructor
  · rintro rfl
    exact ⟨fun part => not_mem_of_mem_splitOn, (List.intercalate_splitOn border).symm⟩
  · rintro ⟨hparts, rfl⟩
    exact List.splitOn_intercalate border hparts hne

/-! ## The first border and the last -/

theorem append_first_border_inj {a a' b b' : List Char} (ha : border ∉ a) (ha' : border ∉ a') :
    a ++ border :: b = a' ++ border :: b' ↔ a = a' ∧ b = b' := by
  constructor
  · intro h
    have hsplit := congrArg (List.splitOn border) h
    rw [List.splitOn_append_cons_self_of_not_mem ha,
      List.splitOn_append_cons_self_of_not_mem ha'] at hsplit
    have hfront : a = a' := (List.cons.inj hsplit).1
    rw [hfront] at h
    exact ⟨hfront, (List.cons.inj (List.append_cancel_left h)).2⟩
  · rintro ⟨rfl, rfl⟩
    rfl

theorem append_last_border_inj {a a' b b' : List Char} (hb : border ∉ b) (hb' : border ∉ b') :
    a ++ border :: b = a' ++ border :: b' ↔ a = a' ∧ b = b' := by
  have hreverse (x y : List Char) :
      (x ++ border :: y).reverse = y.reverse ++ border :: x.reverse := by simp
  rw [← List.reverse_inj, hreverse, hreverse,
    append_first_border_inj (by simpa using hb) (by simpa using hb'), List.reverse_inj,
    List.reverse_inj, and_comm]

end MeshRegistry.Text
