import Mathlib.Data.Nat.Digits.Defs
import MeshRegistry.Address.Ipv6
import MeshRegistry.Proofs.Json.Numerals

/-!
# Reading back what was written: numbers and IPv4 addresses

The digits of a number are taken up to the first character that is none, in whatever base, and an
address of four numbers is read back with anything behind it that does not go on with a digit.
-/

namespace MeshRegistry.Address

/-! ## Digits in any base -/

section Base

variable {b : Nat} {digit? : Char → Option Nat}

/-- A base reads its own digits: each character that writes a number below it stands for that number. -/
def ReadsDigits (b : Nat) (digit? : Char → Option Nat) : Prop :=
  ∀ d < b, digit? d.digitChar = some d

theorem readsDigits_decimal : ReadsDigits 10 Text.decimalDigit? := by
  unfold ReadsDigits
  decide

theorem readsDigits_hexadecimal : ReadsDigits 16 Text.hexDigit? := by
  unfold ReadsDigits
  decide

/-- The number that a character stands for. -/
def digitValue (digit? : Char → Option Nat) (c : Char) : Nat :=
  (digit? c).getD 0

theorem digitValue_digitChar (hread : ReadsDigits b digit?) {d : Nat} (hd : d < b) :
    digitValue digit? d.digitChar = d := by
  rw [digitValue, hread d hd, Option.getD_some]

theorem exists_digitChar_of_mem_toDigits (hb : 1 < b) {n : Nat} {c : Char}
    (hc : c ∈ Nat.toDigits b n) : ∃ d < b, c = d.digitChar := by
  induction n using Nat.strongRecOn with
  | ind n ih =>
      by_cases hsmall : n < b
      · rw [Nat.toDigits_of_lt_base hsmall, List.mem_singleton] at hc
        exact ⟨n, hsmall, hc⟩
      · rw [Nat.toDigits_of_base_le hb (Nat.le_of_not_lt hsmall), List.mem_append,
          List.mem_singleton] at hc
        rcases hc with hc | hc
        · exact ih (n / b) (Nat.div_lt_self (by omega) hb) hc
        · exact ⟨n % b, Nat.mod_lt n (by omega), hc⟩

theorem digitsValue_concat (b : Nat) (ds : List Nat) (d : Nat) :
    digitsValue b (ds ++ [d]) = b * digitsValue b ds + d := by
  rw [digitsValue, List.foldl_append]
  rfl

theorem digitsValue_toDigits (hb : 1 < b) (hread : ReadsDigits b digit?) (n : Nat) :
    digitsValue b ((Nat.toDigits b n).map (digitValue digit?)) = n := by
  induction n using Nat.strongRecOn with
  | ind n ih =>
      by_cases hsmall : n < b
      · rw [Nat.toDigits_of_lt_base hsmall, List.map_singleton, digitValue_digitChar hread hsmall]
        simp [digitsValue]
      · rw [Nat.toDigits_of_base_le hb (Nat.le_of_not_lt hsmall), List.map_append,
          List.map_singleton, digitsValue_concat, ih (n / b) (Nat.div_lt_self (by omega) hb),
          digitValue_digitChar hread (Nat.mod_lt n (by omega))]
        exact Nat.div_add_mod n b

theorem readDigits_append {cs rest : List Char} (hcs : ∀ c ∈ cs, (digit? c).isSome = true)
    (hrest : ∀ c ∈ rest.head?, digit? c = none) :
    readDigits digit? (cs ++ rest) = (cs.map (digitValue digit?), rest) := by
  induction cs with
  | nil =>
      cases rest with
      | nil => rfl
      | cons c rest => simp [readDigits, hrest c rfl]
  | cons c cs ih =>
      obtain ⟨d, hd⟩ := Option.isSome_iff_exists.1 (hcs c List.mem_cons_self)
      rw [List.cons_append, readDigits, hd]
      simp only [ih fun c' hc' => hcs c' (List.mem_cons_of_mem c hc')]
      simp [digitValue, hd]

/-- The digits of a number are read back, with anything behind them that is no digit. -/
theorem readDigits_toDigits (hb : 1 < b) (hread : ReadsDigits b digit?) (n : Nat)
    {rest : List Char} (hrest : ∀ c ∈ rest.head?, digit? c = none) :
    readDigits digit? (Nat.toDigits b n ++ rest) =
      ((Nat.toDigits b n).map (digitValue digit?), rest) := by
  refine readDigits_append ?_ hrest
  intro c hc
  obtain ⟨d, hd, rfl⟩ := exists_digitChar_of_mem_toDigits hb hc
  rw [hread d hd]
  rfl

end Base

end MeshRegistry.Address

namespace MeshRegistry.Ipv4

open Address

/-! ## Four numbers -/

/-- No number of more than one digit has a zero in front. -/
theorem length_le_of_head?_eq_zero {n : Nat}
    (h : ((Nat.toDigits 10 n).map (digitValue Text.decimalDigit?)).head? = some 0) :
    (Nat.toDigits 10 n).length ≤ 1 := by
  obtain ⟨c, cs, hcs, -⟩ := Json.exists_toDigits_cons n
  obtain ⟨d, hd, rfl⟩ := exists_digitChar_of_mem_toDigits (by decide) (hcs ▸ List.mem_cons_self)
  rw [hcs, List.map_cons, List.head?_cons, Option.some_inj,
    digitValue_digitChar readsDigits_decimal hd] at h
  subst h
  rw [hcs, Json.eq_nil_of_toDigits_eq_zero_cons hcs, List.length_singleton]

theorem readOctet_toDigits (n : UInt8) {rest : List Char}
    (hrest : ∀ c ∈ rest.head?, Text.decimalDigit? c = none) :
    readOctet (Nat.toDigits 10 n.toNat ++ rest) = some (n, rest) := by
  have hn : n.toNat < 256 := n.toNat_lt
  have hdigits := readDigits_toDigits (by decide) readsDigits_decimal n.toNat hrest
  have hvalue := digitsValue_toDigits (by decide) readsDigits_decimal n.toNat
  have hlong : (Nat.toDigits 10 n.toNat).length ≤ 3 := by
    rw [Nat.length_toDigits_le_iff (by decide) (by decide)]
    omega
  have hshort : 0 < (Nat.toDigits 10 n.toNat).length := Nat.length_toDigits_pos
  have hlead := length_le_of_head?_eq_zero (n := n.toNat)
  rw [readOctet, hdigits]
  simp only [hvalue, List.length_map, List.isEmpty_map]
  rw [if_neg, if_neg, UInt8.ofNat_toNat]
  · rintro ⟨hzero, hmore⟩
    exact absurd (hlead hzero) (by omega)
  · rintro (hempty | hlonger | hbig)
    · rw [List.isEmpty_iff_length_eq_zero] at hempty
      omega
    · omega
    · omega

theorem point_is_no_digit (s : List Char) :
    ∀ c ∈ ('.' :: s).head?, Text.decimalDigit? c = none := by
  rintro c ⟨⟩
  decide

/-- An address is read back, with anything behind it that does not go on with a digit. -/
theorem read_text (ip : Ipv4) {rest : List Char}
    (hrest : ∀ c ∈ rest.head?, Text.decimalDigit? c = none) :
    read (ip.text ++ rest) = some (ip, rest) := by
  simp only [text, read, List.append_assoc, List.cons_append]
  simp only [readOctet_toDigits _ (point_is_no_digit _), readOctet_toDigits ip.d hrest, readChar,
    if_true, Option.bind_eq_bind, Option.bind_some]
  rfl

theorem read_text_nil (ip : Ipv4) : read ip.text = some (ip, []) := by
  have hread := @read_text ip [] (by simp)
  rwa [List.append_nil] at hread

theorem readChar_mem {c : Char} {s t : List Char} (h : readChar c s = some t) : c ∈ s := by
  cases s with
  | nil => cases h
  | cons d s =>
      rw [readChar] at h
      split at h
      next heq => exact heq ▸ List.mem_cons_self
      next => cases h

theorem readDigits_suffix (digit? : Char → Option Nat) (s : List Char) :
    (readDigits digit? s).2 <:+ s := by
  induction s with
  | nil => exact List.suffix_rfl
  | cons c s ih =>
      rw [readDigits]
      split
      · exact ih.trans (List.suffix_cons c s)
      · exact List.suffix_rfl

/-- What holds no point is not read as an address. -/
theorem read_eq_none {s : List Char} (h : '.' ∉ s) : read s = none := by
  rw [read]
  cases hoctet : readOctet s with
  | none => rfl
  | some first =>
      obtain ⟨a, t⟩ := first
      have hsuffix : t <:+ s := by
        have hdigits := readDigits_suffix Text.decimalDigit? s
        simp only [readOctet] at hoctet
        split at hoctet
        · cases hoctet
        · split at hoctet
          · cases hoctet
          · cases hoctet
            exact hdigits
      have hpoint : readChar '.' t = none := by
        rw [Option.eq_none_iff_forall_not_mem]
        exact fun u hu => h (hsuffix.subset (readChar_mem hu))
      simp [hpoint]

end MeshRegistry.Ipv4
