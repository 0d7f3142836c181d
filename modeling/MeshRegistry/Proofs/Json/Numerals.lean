import MeshRegistry.Proofs.Json.Strings
import Mathlib.Data.List.TakeWhile

/-!
# Reading back what was written: whole numbers

The digits of a number are taken up to the first character that is none, and add up to the number
again as long as a word holds it.
-/

namespace MeshRegistry.Json

variable {α : Type}

/-! ## Digits -/

theorem not_isDigit_of_delimited {rest : List Char} (hrest : Delimited rest) :
    ∀ c ∈ rest.head?, c.isDigit = false := by
  intro c hc
  obtain rfl | rfl | rfl := hrest c hc <;> rfl

theorem takeWhile_isDigit_append {ds rest : List Char} (hds : ∀ c ∈ ds, c.isDigit = true)
    (hrest : Delimited rest) : (ds ++ rest).takeWhile Char.isDigit = ds := by
  rw [List.takeWhile_append_of_pos hds]
  cases rest with
  | nil => rw [List.takeWhile_nil, List.append_nil]
  | cons c rest =>
      have hc := not_isDigit_of_delimited hrest c rfl
      rw [List.takeWhile_cons_of_neg (by simp [hc]), List.append_nil]

theorem dropWhile_isDigit_append {ds rest : List Char} (hds : ∀ c ∈ ds, c.isDigit = true)
    (hrest : Delimited rest) : (ds ++ rest).dropWhile Char.isDigit = rest := by
  rw [List.dropWhile_append_of_pos hds]
  cases rest with
  | nil => rfl
  | cons c rest =>
      have hc := not_isDigit_of_delimited hrest c rfl
      rw [List.dropWhile_cons_of_neg (by simp [hc])]

theorem isDigit_of_mem_toDigits {n : Nat} : ∀ c ∈ Nat.toDigits 10 n, c.isDigit = true :=
  fun _ hc => Nat.isDigit_of_mem_toDigits (by decide) (by decide) hc

theorem exists_toDigits_cons (n : Nat) :
    ∃ d ds, Nat.toDigits 10 n = d :: ds ∧ d.isDigit = true := by
  obtain ⟨d, ds, hds⟩ := List.exists_cons_of_ne_nil (Nat.toDigits_ne_nil (n := n) (b := 10))
  exact ⟨d, ds, hds, isDigit_of_mem_toDigits d (hds ▸ List.mem_cons_self)⟩

theorem digitChar_ne_zero : ∀ n < 10, 0 < n → n.digitChar ≠ '0' := by
  decide

/-- Only zero is written with a zero in front. -/
theorem head?_toDigits_ne {n : Nat} (hn : 0 < n) : (Nat.toDigits 10 n).head? ≠ some '0' := by
  induction n using Nat.strongRecOn with
  | ind n ih =>
      by_cases hsmall : n < 10
      · rw [Nat.toDigits_of_lt_base hsmall, List.head?_cons]
        intro hhead
        exact digitChar_ne_zero n hsmall hn (Option.some.inj hhead)
      · have hprefix := ih (n / 10) (by omega) (by omega)
        rw [Nat.toDigits_of_base_le (by decide) (by omega)]
        obtain ⟨d, ds, hds, -⟩ := exists_toDigits_cons (n / 10)
        rw [hds] at hprefix ⊢
        exact hprefix

theorem eq_nil_of_toDigits_eq_zero_cons {n : Nat} {ds : List Char}
    (h : Nat.toDigits 10 n = '0' :: ds) : ds = [] := by
  obtain rfl | hn := Nat.eq_zero_or_pos n
  · rw [Nat.toDigits_zero] at h
    exact (List.cons.inj h).2.symm
  · have hhead := head?_toDigits_ne hn
    rw [h] at hhead
    exact absurd rfl hhead

/-! ## The number that digits make -/

theorem le_foldl_digits (n : Nat) (ds : List Nat) : n ≤ ds.foldl (fun x d => x * 10 + d) n := by
  induction ds generalizing n with
  | nil => exact Nat.le_refl n
  | cons d ds ih => exact Nat.le_trans (by omega) (ih (n * 10 + d))

theorem accumulate_eq {n : Nat} {ds : List Nat}
    (h : ds.foldl (fun x d => x * 10 + d) n ≤ wordLimit) :
    accumulate n ds = (ds.foldl (fun x d => x * 10 + d) n, ds.length) := by
  induction ds generalizing n with
  | nil => rfl
  | cons d ds ih =>
      have hstep : n * 10 + d ≤ wordLimit := Nat.le_trans (le_foldl_digits _ ds) h
      rw [accumulate, if_pos hstep, ih h]
      rfl

/-- The number that digits make. -/
def valueOf (ds : List Char) : Nat :=
  (ds.map fun c => c.toNat - '0'.toNat).foldl (fun x d => x * 10 + d) 0

theorem valueOf_toDigits (n : Nat) : valueOf (Nat.toDigits 10 n) = n := by
  have hvalue := Nat.ofDigitChars_ten_toDigits (n := n)
  rw [Nat.ofDigitChars_eq_foldl] at hvalue
  rw [valueOf, List.foldl_map]
  simpa only [Nat.mul_comm] using hvalue

theorem digitsOf_append {ds rest : List Char} (hds : ∀ c ∈ ds, c.isDigit = true)
    (hrest : Delimited rest) : digitsOf (ds ++ rest) = ds.map fun c => c.toNat - '0'.toNat := by
  rw [digitsOf, takeWhile_isDigit_append hds hrest]

theorem readReal?_delimited (n : Nat) {rest : List Char} (hrest : Delimited rest) :
    readReal? n 0 rest = .ok none := by
  cases rest with
  | nil => rfl
  | cons c rest => obtain rfl | rfl | rfl := hrest c rfl <;> rfl

theorem readNumeral_digits (isNegative : Bool) {d : Char} {ds rest : List Char}
    (hdigits : ∀ c ∈ d :: ds, c.isDigit = true) (hlead : d = '0' → ds = [])
    (hvalue : valueOf (d :: ds) ≤ wordLimit) (hrest : Delimited rest) :
    ∃ h, readNumeral isNegative (d :: ds ++ rest) =
      .ok ⟨wholeNumeral isNegative (valueOf (d :: ds)), rest, h⟩ := by
  have hd : d.isDigit = true := hdigits d List.mem_cons_self
  have htail : ∀ c ∈ ds, c.isDigit = true := fun c hc => hdigits c (List.mem_cons_of_mem d hc)
  have hafter : skipDigits (ds ++ rest) = ⟨rest, by simp⟩ :=
    Subtype.ext (dropWhile_isDigit_append htail hrest)
  have hreal : readReal? (valueOf (d :: ds)) 0 (skipDigits (ds ++ rest)).1 = .ok none := by
    rw [hafter]
    exact readReal?_delimited _ hrest
  have hleading : ¬ (d = '0' ∧ (!(digitsOf (ds ++ rest)).isEmpty) = true) := by
    rintro ⟨hzero, hmore⟩
    rw [digitsOf_append htail hrest, hlead hzero] at hmore
    cases hmore
  have hall := digitsOf_append hdigits hrest
  rw [List.cons_append] at hall ⊢
  refine ⟨by simp only [List.length_cons, List.length_append]; omega, ?_⟩
  rw [valueOf] at hvalue hreal
  rw [readNumeral]
  simp only [hd, Bool.not_true, Bool.false_eq_true, if_false, if_neg hleading, hall,
    accumulate_eq hvalue, Nat.sub_self, hreal, hafter]
  rfl

theorem readNumeral_toDigits (isNegative : Bool) {n : Nat} (hn : n ≤ wordLimit)
    {rest : List Char} (hrest : Delimited rest) :
    ∃ h, readNumeral isNegative (Nat.toDigits 10 n ++ rest) =
      .ok ⟨wholeNumeral isNegative n, rest, h⟩ := by
  have hvalue := valueOf_toDigits n
  have hdigits := isDigit_of_mem_toDigits (n := n)
  obtain ⟨d, ds, hds, -⟩ := exists_toDigits_cons n
  have hlead : d = '0' → ds = [] := by
    rintro rfl
    exact eq_nil_of_toDigits_eq_zero_cons hds
  rw [hds] at hvalue hdigits ⊢
  have hread := readNumeral_digits isNegative hdigits hlead (hvalue.symm ▸ hn) hrest
  rwa [hvalue] at hread

/-! ## Numbers of a size -/

theorem isSpace_of_isDigit {c : Char} (h : c.isDigit = true) : isSpace c = false := by
  rw [Bool.eq_false_iff]
  intro hspace
  simp only [isSpace, Bool.or_eq_true, beq_iff_eq] at hspace
  obtain ((rfl | rfl) | rfl) | rfl := hspace <;> cases h

theorem number_takes_natural {expected : String} {accept : Numeral → Option α} {n : Nat} {a : α}
    (hn : n ≤ wordLimit) (ha : accept (.natural n) = some a) :
    (number expected accept).Takes (Value.int n).write a := by
  intro rest hrest
  have hread := readNumeral_toDigits false hn hrest
  obtain ⟨d, ds, hds, hd⟩ := exists_toDigits_cons n
  have hsign : d ≠ '-' := by
    rintro rfl
    cases hd
  have hwrite : (Value.int n).write = d :: ds := hds
  rw [hwrite, List.cons_append]
  rw [hds, List.cons_append] at hread
  obtain ⟨hshorter, hread⟩ := hread
  refine ⟨hshorter, ?_⟩
  rw [number, skipSpace_cons (isSpace_of_isDigit hd)]
  simp only [Rest.all, if_neg hsign, hd, if_true, hread, wholeNumeral, Bool.false_eq_true, if_false,
    ha]
  rfl

theorem number_takes_negative {expected : String} {accept : Numeral → Option α} {n : Nat} {a : α}
    (hn : n < 0x8000000000000000) (ha : accept (.negative (n + 1)) = some a) :
    (number expected accept).Takes (Value.int (.negSucc n)).write a := by
  intro rest hrest
  obtain ⟨hshorter, hread⟩ := readNumeral_toDigits true (n := n + 1)
    (by rw [wordLimit]; omega) hrest
  have hwrite : (Value.int (.negSucc n)).write = '-' :: Nat.toDigits 10 (n + 1) := rfl
  have hwhole : wholeNumeral true (n + 1) = .negative (n + 1) := by
    rw [wholeNumeral, if_pos rfl, if_neg (by omega)]
  rw [hwrite, List.cons_append]
  refine ⟨Nat.lt_succ_of_lt hshorter, ?_⟩
  rw [number, skipSpace_cons (by decide)]
  simp only [Rest.all, if_true, hread, hwhole, ha]
  rfl

/-- A word is read back. -/
theorem word16_takes (n : UInt16) : word16.Takes (Value.int n.toNat).write n := by
  have hn : n.toNat < 0x10000 := n.toNat_lt
  refine number_takes_natural (by rw [wordLimit]; omega) ?_
  exact (if_pos hn).trans (congrArg some UInt16.ofNat_toNat)

theorem word64_takes (n : UInt64) : word64.Takes (Value.int n.toNat).write n := by
  have hn : n.toNat < 0x10000000000000000 := n.toNat_lt
  refine number_takes_natural (by rw [wordLimit]; omega) ?_
  exact (if_pos hn).trans (congrArg some UInt64.ofNat_toNat)

/-- A signed number is read back. -/
theorem int32_takes (z : Int32) : int32.Takes (Value.int z.toInt).write z := by
  have hlow : -2 ^ 31 ≤ z.toInt := z.le_toInt
  have hhigh : z.toInt < 2 ^ 31 := z.toInt_lt
  have hz : Int32.ofInt z.toInt = z := Int32.ofInt_toInt z
  cases hsign : z.toInt with
  | ofNat n =>
      rw [hsign] at hhigh hz
      have hn : n < 0x80000000 := by
        rw [Int.ofNat_eq_natCast] at hhigh
        omega
      refine number_takes_natural (by rw [wordLimit]; omega) ?_
      exact (if_pos hn).trans (congrArg some hz)
  | negSucc n =>
      rw [hsign] at hlow hz
      have hn : n + 1 ≤ 0x80000000 := by omega
      refine number_takes_negative (by omega) ?_
      exact (if_pos hn).trans (congrArg some hz)

end MeshRegistry.Json
