import MeshRegistry.Text.Case
import MeshRegistry.Proofs.Text.Blank
import MeshRegistry.Proofs.Text.Utf8

/-!
# Small letters

Folding every capital changes more than folding `A` to `Z`, but the two agree on words: a text names a
word, blanks around it and the case of its letters aside, before it is folded exactly when it does so
afterwards.  The words have to be spelled in ASCII and without `k`, the small letter of the Kelvin
sign.
-/

namespace MeshRegistry.Text

/-! ## Trimming -/

theorem mem_dropWhile {p : Char → Bool} {c : Char} {s : List Char} (hc : c ∈ s) (hp : p c = false) :
    c ∈ s.dropWhile p := by
  rw [← List.takeWhile_append_dropWhile (p := p) (l := s), List.mem_append] at hc
  rcases hc with hc | hc
  · have := List.mem_takeWhile_imp hc
    rw [hp] at this
    cases this
  · exact hc

theorem mem_trim {c : Char} {s : List Char} (hc : c ∈ s) (hblank : isBlank c = false) :
    c ∈ trim s := by
  rw [trim, trimEnd, List.mem_reverse]
  apply mem_dropWhile _ hblank
  rw [List.mem_reverse]
  exact mem_dropWhile hc hblank

theorem dropWhile_map_isBlank {f : Char → Char} (hf : ∀ c, isBlank (f c) = isBlank c)
    (s : List Char) : (s.map f).dropWhile isBlank = (s.dropWhile isBlank).map f := by
  have hcomp : isBlank ∘ f = isBlank := funext hf
  rw [List.dropWhile_map, hcomp]

theorem trim_map {f : Char → Char} (hf : ∀ c, isBlank (f c) = isBlank c) (s : List Char) :
    trim (s.map f) = (trim s).map f := by
  simp only [trim, trimEnd, dropWhile_map_isBlank hf, ← List.map_reverse]

/-! ## ASCII letters -/

theorem toLower_of_not_capital {c : Char} (h : ¬ (0x41 ≤ c.toNat ∧ c.toNat ≤ 0x5A)) :
    c.toLower = c :=
  dif_neg h

theorem toLower_of_le {c : Char} (h : 0x80 ≤ c.toNat) : c.toLower = c :=
  toLower_of_not_capital (by omega)

/-- What is checked of each ASCII character holds of them all. -/
theorem ascii_induction {P : Char → Prop} (h : ∀ n < 0x80, P (Char.ofNat n)) {c : Char}
    (hc : c.toNat < 0x80) : P c := by
  rw [← Char.ofNat_toNat c]
  exact h _ hc

theorem isBlank_toLower (c : Char) : isBlank c.toLower = isBlank c := by
  by_cases hc : c.toNat < 0x80
  · exact ascii_induction (P := fun c => isBlank c.toLower = isBlank c) (by decide +kernel) hc
  · rw [toLower_of_le (Nat.le_of_not_lt hc)]

theorem toLower_toLower (c : Char) : c.toLower.toLower = c.toLower := by
  by_cases hc : c.toNat < 0x80
  · exact ascii_induction (P := fun c => c.toLower.toLower = c.toLower) (by decide +kernel) hc
  · rw [toLower_of_le (Nat.le_of_not_lt hc), toLower_of_le (Nat.le_of_not_lt hc)]

/-- Capitals that were folded once have nothing left to fold. -/
theorem lowerAscii_trim_lowerAscii (s : List Char) :
    lowerAscii (trim (lowerAscii s)) = lowerAscii (trim s) := by
  rw [lowerAscii, lowerAscii, trim_map isBlank_toLower, List.map_map]
  exact List.map_congr_left fun c _ => toLower_toLower c

/-- The first capitals of the table are `A` to `Z`, and all others lie beyond ASCII. -/
theorem exists_smallLetters_eq : ∃ rest, smallLetters = (0x41, 0x5A, 1, 0x61) :: rest ∧
    ∀ r ∈ rest, 0x80 ≤ r.1 :=
  ⟨_, rfl, by decide +kernel⟩

theorem ofNat_eq_toLower {c : Char} (h : 0x41 ≤ c.toNat ∧ c.toNat ≤ 0x5A) :
    Char.ofNat (0x61 + (c.toNat - 0x41)) = c.toLower := by
  have hc : c.toNat < 0x80 := by omega
  revert h
  exact ascii_induction (P := fun c => 0x41 ≤ c.toNat ∧ c.toNat ≤ 0x5A →
    Char.ofNat (0x61 + (c.toNat - 0x41)) = c.toLower) (by decide +kernel) hc

theorem lowerChar_of_ascii {c : Char} (hc : c.toNat < 0x80) : lowerChar c = [c.toLower] := by
  obtain ⟨rest, htable, hrest⟩ := exists_smallLetters_eq
  have hcapital : c ≠ 'İ' := by
    rintro rfl
    exact absurd hc (by decide)
  have hbeyond : (rest.find? fun r =>
      r.1 ≤ c.toNat && c.toNat ≤ r.2.1 && (c.toNat - r.1) % r.2.2.1 == 0) = none := by
    rw [List.find?_eq_none]
    intro r hr
    have hfirst : ¬ r.1 ≤ c.toNat := by
      have := hrest r hr
      omega
    simp [hfirst]
  rw [lowerChar, if_neg hcapital, htable]
  dsimp only
  rw [List.find?_cons, hbeyond]
  by_cases hletter : 0x41 ≤ c.toNat ∧ c.toNat ≤ 0x5A
  · have hfold := ofNat_eq_toLower hletter
    simp [hletter, hfold, Nat.mod_one]
  · have hmiss : (decide (0x41 ≤ c.toNat) && decide (c.toNat ≤ 0x5A)) = false := by
      simpa using hletter
    rw [toLower_of_not_capital hletter, hmiss]
    rfl

/-! ## Blanks -/

theorem find?_whiteSpace : ∀ n ∈ whiteSpace,
    (smallLetters.find? fun r => r.1 ≤ n && n ≤ r.2.1 && (n - r.1) % r.2.2.1 == 0) = none := by
  decide +kernel

theorem lowerChar_of_isBlank {c : Char} (hblank : isBlank c = true) : lowerChar c = [c] := by
  have hcapital : c ≠ 'İ' := by
    rintro rfl
    exact absurd hblank (by decide)
  rw [lowerChar, if_neg hcapital]
  simp only [find?_whiteSpace _ (isBlank_iff_mem_whiteSpace.1 hblank)]

/-! ## Everything else -/

/-- A character that is not blank and that no word in ASCII without `k` has, in whatever case. -/
def IsStranger (c : Char) : Prop :=
  isBlank c = false ∧ (0x80 ≤ c.toNat ∨ c = 'k')

theorem IsStranger.toLower_not_mem {c : Char} (hc : IsStranger c) {word : List Char}
    (hword : ∀ c ∈ word, c.toNat < 0x80 ∧ c ≠ 'k') : c.toLower ∉ word := by
  intro hmem
  rcases hc.2 with hhigh | rfl
  · rw [toLower_of_le hhigh] at hmem
    have := (hword c hmem).1
    omega
  · exact (hword _ hmem).2 rfl

/-- The small letters of the capitals beyond ASCII: one of them is a plain `k`, and the others lie
beyond ASCII too and are not blank. -/
theorem smallLetters_high : ∀ r ∈ smallLetters, r.2.1 < 0x80 ∨ (r.2.2.2 = 0x6B ∧ r.2.1 = r.1) ∨
    (0x80 ≤ r.2.2.2 ∧
      (r.2.2.2 + (r.2.1 - r.1) < 0xD800 ∨
        0xDFFF < r.2.2.2 ∧ r.2.2.2 + (r.2.1 - r.1) < 0x110000) ∧
      ∀ b ∈ whiteSpace, b < r.2.2.2 ∨ r.2.2.2 + (r.2.1 - r.1) < b) := by
  decide +kernel

theorem isStranger_ofNat {n : Nat} (hhigh : 0x80 ≤ n) (hvalid : n.isValidChar)
    (hblank : n ∉ whiteSpace) : IsStranger (Char.ofNat n) := by
  have hn := toNat_ofNat hvalid
  refine ⟨?_, .inl (hn.symm ▸ hhigh)⟩
  rw [Bool.eq_false_iff, ne_eq, isBlank_iff_mem_whiteSpace, hn]
  exact hblank

theorem exists_stranger_mem_lowerChar {c : Char} (hc : 0x80 ≤ c.toNat) (hblank : isBlank c = false) :
    ∃ d ∈ lowerChar c, IsStranger d := by
  rw [lowerChar]
  split
  next => exact ⟨'\u0307', by simp, by decide, .inl (by decide)⟩
  next =>
    dsimp only
    split
    next first last step small hfind =>
      have hin := List.find?_some hfind
      simp only [Bool.and_eq_true, decide_eq_true_eq] at hin
      obtain ⟨⟨hfirst, hlast⟩, -⟩ := hin
      refine ⟨_, List.mem_singleton_self _, ?_⟩
      rcases smallLetters_high _ (List.mem_of_find?_eq_some hfind) with hlow | hk | hhigh
      · dsimp only at hlow
        omega
      · dsimp only at hk
        obtain ⟨rfl, rfl⟩ := hk
        rw [Nat.le_antisymm hlast hfirst, Nat.sub_self]
        exact ⟨by decide, .inr rfl⟩
      · dsimp only at hhigh
        obtain ⟨hsmall, hvalid, hfree⟩ := hhigh
        apply isStranger_ofNat (by omega)
        · rcases hvalid with hvalid | ⟨hlow, hvalid⟩
          · exact .inl (by omega)
          · exact .inr ⟨by omega, by omega⟩
        · intro hmem
          rcases hfree _ hmem with hfree | hfree <;> omega
    next => exact ⟨c, List.mem_singleton_self c, hblank, .inl hc⟩

/-! ## Whole texts -/

/-- Folding every capital of a text of ASCII characters and blanks folds `A` to `Z`. -/
theorem lowerAfter_eq_lowerAscii {s : List Char}
    (hs : ∀ c ∈ s, c.toNat < 0x80 ∨ isBlank c = true) (before : List Char) :
    lowerAfter before s = lowerAscii s := by
  induction s generalizing before with
  | nil => rfl
  | cons c s ih =>
      have hsigma : c ≠ 'Σ' := by
        rintro rfl
        exact absurd (hs _ List.mem_cons_self) (by decide)
      have hchar : lowerChar c = [c.toLower] := by
        by_cases hc : c.toNat < 0x80
        · exact lowerChar_of_ascii hc
        · have hhigh := Nat.le_of_not_lt hc
          rw [lowerChar_of_isBlank ((hs c List.mem_cons_self).resolve_left hc),
            toLower_of_le hhigh]
      rw [lowerAfter, if_neg hsigma, hchar, ih fun d hd => hs d (List.mem_cons_of_mem c hd)]
      rfl

/-- Folding does not make a text of other characters one that could name a word. -/
theorem exists_stranger_mem_lowerAfter {s : List Char} {c : Char} (hmem : c ∈ s)
    (hc : 0x80 ≤ c.toNat) (hblank : isBlank c = false) (before : List Char) :
    ∃ d ∈ lowerAfter before s, IsStranger d := by
  induction s generalizing before with
  | nil => cases hmem
  | cons c' s ih =>
      rw [lowerAfter]
      rcases List.mem_cons.1 hmem with rfl | hmem
      · split
        next =>
          split
          next => exact ⟨'ς', by simp, by decide, .inl (by decide)⟩
          next => exact ⟨'σ', by simp, by decide, .inl (by decide)⟩
        next =>
          obtain ⟨d, hd, hstranger⟩ := exists_stranger_mem_lowerChar hc hblank
          exact ⟨d, List.mem_append_left _ hd, hstranger⟩
      · obtain ⟨d, hd, hstranger⟩ := ih hmem (c' :: before)
        exact ⟨d, List.mem_append_right _ hd, hstranger⟩

/-- A text with a stranger in it names no word. -/
theorem lowerAscii_trim_ne {s : List Char} {d : Char} (hd : d ∈ s) (hstranger : IsStranger d)
    {word : List Char} (hword : ∀ c ∈ word, c.toNat < 0x80 ∧ c ≠ 'k') :
    lowerAscii (trim s) ≠ word := by
  rintro rfl
  exact hstranger.toLower_not_mem hword (List.mem_map_of_mem (mem_trim hd hstranger.1))

/-- A text names a word after all its capitals were folded exactly when it does so before. -/
theorem lowerAscii_trim_lower_iff {word : List Char}
    (hword : ∀ c ∈ word, c.toNat < 0x80 ∧ c ≠ 'k') (s : List Char) :
    lowerAscii (trim (lower s)) = word ↔ lowerAscii (trim s) = word := by
  by_cases hs : ∀ c ∈ s, c.toNat < 0x80 ∨ isBlank c = true
  · rw [lower, lowerAfter_eq_lowerAscii hs, lowerAscii_trim_lowerAscii]
  · simp only [not_forall, not_or, Nat.not_lt, Bool.not_eq_true] at hs
    obtain ⟨c, hmem, hc, hblank⟩ := hs
    obtain ⟨d, hd, hstranger⟩ := exists_stranger_mem_lowerAfter hmem hc hblank []
    have hbefore := lowerAscii_trim_ne hmem ⟨hblank, .inl hc⟩ hword
    have hafter := lowerAscii_trim_ne (s := lower s) hd hstranger hword
    exact ⟨fun h => absurd h hafter, fun h => absurd h hbefore⟩

end MeshRegistry.Text
