import Mathlib.Data.List.TakeWhile
import MeshRegistry.Http.Target

/-!
# Paths of targets

A path is a target as it stands, and with a query behind it the target still has that path.
-/

namespace MeshRegistry.Http

/-- Neither the query nor the fragment of a target begins inside its path. -/
theorem ne_of_isPathChar {c : Char} (h : isPathChar c = true) : c ≠ '?' ∧ c ≠ '#' := by
  constructor
  · rintro rfl
    cases h
  · rintro rfl
    cases h

theorem ne_of_isQueryChar {c : Char} (h : isQueryChar c = true) : c ≠ '#' := by
  rintro rfl
  cases h

theorem pathBeforeQuery?_append {path query : List Char} (hpath : ∀ c ∈ path, isPathChar c = true)
    (hquery : ∀ c ∈ query, isQueryChar c = true) (hmark : ∀ c ∈ query.head?, c = '?') :
    pathBeforeQuery? (path ++ query) = some path := by
  have hfragment : beforeFragment (path ++ query) = path ++ query := by
    rw [beforeFragment, List.takeWhile_eq_self_iff]
    intro c hc
    rw [bne_iff_ne]
    rcases List.mem_append.1 hc with hc | hc
    · exact (ne_of_isPathChar (hpath c hc)).2
    · exact ne_of_isQueryChar (hquery c hc)
  have hinside : ∀ c ∈ path, (c != '?') = true :=
    fun c hc => bne_iff_ne.2 (ne_of_isPathChar (hpath c hc)).1
  have hfront : (path ++ query).takeWhile (· != '?') = path := by
    rw [List.takeWhile_append_of_pos hinside]
    cases query with
    | nil => simp
    | cons c query => simp [hmark c rfl]
  have hback : (path ++ query).dropWhile (· != '?') = query := by
    rw [List.dropWhile_append_of_pos hinside]
    cases query with
    | nil => rfl
    | cons c query => simp [hmark c rfl]
  rw [pathBeforeQuery?]
  simp only [hfragment, hfront, hback]
  rw [if_pos ⟨List.all_eq_true.2 hpath, List.all_eq_true.2 hquery⟩]

theorem targetPath?_append {path query : List Char}
    (hfits : (String.ofList ('/' :: path ++ query)).utf8ByteSize ≤ maxTarget)
    (hpath : ∀ c ∈ path, isPathChar c = true) (hquery : ∀ c ∈ query, isQueryChar c = true)
    (hmark : ∀ c ∈ query.head?, c = '?') :
    targetPath? ('/' :: path ++ query) = some ('/' :: path) := by
  have hfront : ∀ c ∈ '/' :: path, isPathChar c = true := by
    rw [List.forall_mem_cons]
    exact ⟨by decide, hpath⟩
  have hpathOf := pathBeforeQuery?_append hfront hquery hmark
  rw [List.cons_append] at hfits hpathOf ⊢
  rw [targetPath?, if_neg (Nat.not_lt.2 hfits), hpathOf]

theorem le_maxTarget {s path : List Char} (h : targetPath? s = some path) :
    (String.ofList s).utf8ByteSize ≤ maxTarget := by
  by_contra hlong
  unfold targetPath? at h
  rw [if_pos (Nat.lt_of_not_le hlong)] at h
  cases h

/-- A path is a target whose path it is. -/
theorem targetPath?_path {path : List Char}
    (hfits : (String.ofList ('/' :: path)).utf8ByteSize ≤ maxTarget)
    (hpath : ∀ c ∈ path, isPathChar c = true) : targetPath? ('/' :: path) = some ('/' :: path) := by
  have hnothing := @targetPath?_append path []
  rw [List.append_nil] at hnothing
  exact hnothing hfits hpath (by simp) (by simp)

end MeshRegistry.Http
