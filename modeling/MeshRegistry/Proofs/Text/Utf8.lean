import Mathlib.Tactic.SplitIfs
import MeshRegistry.Text.Utf8

/-!
# Encoding and decoding

Decoding gives back what was encoded and nothing else, so texts with the same bytes are the same, and
bytes below 0x20 stand for control characters only.
-/

namespace MeshRegistry.Text

theorem toNat_ofNat {n : Nat} (h : n.isValidChar) : (Char.ofNat n).toNat = n := by
  rw [Char.ofNat, dif_pos h]
  rfl

namespace Utf8

theorem scalar?_toNat {c : Char} {least : Nat} (h : least ≤ c.toNat) :
    scalar? least c.toNat = some c := by
  have hvalid : c.toNat.isValidChar := c.valid
  rw [scalar?, dif_pos hvalid, if_pos h]
  rfl

private theorem toNat_byte {n : Nat} (h : n < 256) : (UInt8.ofNat n).toNat = n :=
  UInt8.toNat_ofNat_of_lt' h

theorem continuation?_ofNat {n : Nat} (h : n < 64) :
    continuation? (UInt8.ofNat (n + 128)) = some n := by
  rw [continuation?, toNat_byte (by omega), if_pos (by omega)]
  congr 1
  omega

@[simp] theorem encode_nil : encode [] = [] := rfl

@[simp] theorem encode_cons (c : Char) (s : List Char) :
    encode (c :: s) = String.utf8EncodeChar c ++ encode s := rfl

@[simp] theorem encode_append (s t : List Char) : encode (s ++ t) = encode s ++ encode t :=
  List.flatMap_append

section Forms

variable {a b₁ b₂ b₃ : UInt8} {x₁ x₂ x₃ : Nat} {c : Char}

/-! The four forms of a character, by the number of its bytes. -/

theorem decode_one (ha : a.toNat = c.toNat) (hmax : c.toNat < 0x80) (rest : Bytes) :
    decode (a :: rest) = (decode rest).map (c :: ·) := by
  rw [decode.eq_def]
  simp only [ha, if_pos hmax, scalar?_toNat (Nat.zero_le _)]
  cases decode rest <;> rfl

/-- A byte below 0x80 is a character of its own. -/
theorem decode_ascii (ha : a.toNat < 0x80) (rest : Bytes) :
    decode (a :: rest) = (decode rest).map (Char.ofNat a.toNat :: ·) := by
  have hchar : (Char.ofNat a.toNat).toNat = a.toNat :=
    toNat_ofNat (.inl (Nat.lt_trans ha (by decide)))
  exact decode_one hchar.symm (by omega) rest

theorem decode_two (hlow : 0xC0 ≤ a.toNat) (hhigh : a.toNat < 0xE0)
    (h₁ : continuation? b₁ = some x₁) (hc : (a.toNat - 0xC0) * 64 + x₁ = c.toNat)
    (hmin : 0x80 ≤ c.toNat) (rest : Bytes) :
    decode (a :: b₁ :: rest) = (decode rest).map (c :: ·) := by
  rw [decode.eq_def]
  simp only [if_neg (show ¬ a.toNat < 0x80 by omega), if_neg (show ¬ a.toNat < 0xC0 by omega),
    if_pos hhigh]
  rw [h₁, Option.bind_eq_bind, Option.bind_some, hc, scalar?_toNat hmin]
  cases decode rest <;> rfl

theorem decode_three (hlow : 0xE0 ≤ a.toNat) (hhigh : a.toNat < 0xF0)
    (h₁ : continuation? b₁ = some x₁) (h₂ : continuation? b₂ = some x₂)
    (hc : ((a.toNat - 0xE0) * 64 + x₁) * 64 + x₂ = c.toNat) (hmin : 0x800 ≤ c.toNat)
    (rest : Bytes) :
    decode (a :: b₁ :: b₂ :: rest) = (decode rest).map (c :: ·) := by
  rw [decode.eq_def]
  simp only [if_neg (show ¬ a.toNat < 0x80 by omega), if_neg (show ¬ a.toNat < 0xC0 by omega),
    if_neg (show ¬ a.toNat < 0xE0 by omega), if_pos hhigh]
  rw [h₁, h₂, Option.bind_eq_bind, Option.bind_some, Option.bind_eq_bind, Option.bind_some, hc,
    scalar?_toNat hmin]
  cases decode rest <;> rfl

theorem decode_four (hlow : 0xF0 ≤ a.toNat) (hhigh : a.toNat < 0xF8)
    (h₁ : continuation? b₁ = some x₁) (h₂ : continuation? b₂ = some x₂)
    (h₃ : continuation? b₃ = some x₃)
    (hc : (((a.toNat - 0xF0) * 64 + x₁) * 64 + x₂) * 64 + x₃ = c.toNat)
    (hmin : 0x10000 ≤ c.toNat) (rest : Bytes) :
    decode (a :: b₁ :: b₂ :: b₃ :: rest) = (decode rest).map (c :: ·) := by
  rw [decode.eq_def]
  simp only [if_neg (show ¬ a.toNat < 0x80 by omega), if_neg (show ¬ a.toNat < 0xC0 by omega),
    if_neg (show ¬ a.toNat < 0xE0 by omega), if_neg (show ¬ a.toNat < 0xF0 by omega),
    if_pos hhigh]
  rw [h₁, h₂, h₃, Option.bind_eq_bind, Option.bind_some, Option.bind_eq_bind, Option.bind_some,
    Option.bind_eq_bind, Option.bind_some, hc, scalar?_toNat hmin]
  cases decode rest <;> rfl

end Forms

theorem toNat_lt_of_char (c : Char) : c.toNat < 0x110000 := by
  rcases c.valid with h | h
  · exact Nat.lt_trans h (by decide)
  · exact h.2

theorem decode_encodeChar (c : Char) (rest : Bytes) :
    decode (String.utf8EncodeChar c ++ rest) = (decode rest).map (c :: ·) := by
  have hmax := toNat_lt_of_char c
  have hval : c.val.toNat = c.toNat := rfl
  have hlow : ∀ n, n % 64 < 64 := fun n => Nat.mod_lt n (by decide)
  rw [String.utf8EncodeChar, hval]
  by_cases h1 : c.toNat ≤ 127
  · rw [if_pos h1]
    exact decode_one (toNat_byte (by omega)) (by omega) rest
  by_cases h2 : c.toNat ≤ 2047
  · have ha : (UInt8.ofNat (c.toNat / 64 % 32 + 192)).toNat = c.toNat / 64 % 32 + 192 :=
      toNat_byte (by omega)
    rw [if_neg h1, if_pos h2]
    refine decode_two ?_ ?_ (continuation?_ofNat (hlow _)) ?_ ?_ rest <;> omega
  by_cases h3 : c.toNat ≤ 65535
  · have ha : (UInt8.ofNat (c.toNat / 4096 % 16 + 224)).toNat = c.toNat / 4096 % 16 + 224 :=
      toNat_byte (by omega)
    rw [if_neg h1, if_neg h2, if_pos h3]
    refine decode_three ?_ ?_ (continuation?_ofNat (hlow _)) (continuation?_ofNat (hlow _)) ?_ ?_
      rest <;> omega
  · have ha : (UInt8.ofNat (c.toNat / 262144 % 8 + 240)).toNat = c.toNat / 262144 % 8 + 240 :=
      toNat_byte (by omega)
    rw [if_neg h1, if_neg h2, if_neg h3]
    refine decode_four ?_ ?_ (continuation?_ofNat (hlow _)) (continuation?_ofNat (hlow _))
      (continuation?_ofNat (hlow _)) ?_ ?_ rest <;> omega

theorem decode_encode (s : List Char) : decode (encode s) = some s := by
  induction s with
  | nil => rfl
  | cons c s ih => rw [encode_cons, decode_encodeChar, ih, Option.map_some]

section Forms

variable {a b₁ b₂ b₃ : UInt8} {x₁ x₂ x₃ : Nat} {c : Char}

/-! The bytes of a character are those that it is decoded from, again by their number. -/

theorem toNat_of_scalar? {least n : Nat} (h : scalar? least n = some c) :
    c.toNat = n ∧ least ≤ n := by
  unfold scalar? at h
  by_cases hvalid : n.isValidChar
  · rw [dif_pos hvalid] at h
    by_cases hleast : least ≤ n
    · rw [if_pos hleast] at h
      cases h
      exact ⟨rfl, hleast⟩
    · rw [if_neg hleast] at h
      cases h
  · rw [dif_neg hvalid] at h
    cases h

theorem toNat_of_continuation? (h : continuation? b₁ = some x₁) : b₁.toNat = x₁ + 128 ∧ x₁ < 64 := by
  unfold continuation? at h
  split_ifs at h with hlead
  cases h
  omega

private theorem ofNat_eq {b : UInt8} {n : Nat} (h : b.toNat = n) : UInt8.ofNat n = b := by
  rw [← h, UInt8.ofNat_toNat]

theorem encodeChar_one (ha : a.toNat < 0x80) (hc : scalar? 0 a.toNat = some c) :
    String.utf8EncodeChar c = [a] := by
  have hval : c.val.toNat = c.toNat := rfl
  obtain ⟨hn, -⟩ := toNat_of_scalar? hc
  rw [String.utf8EncodeChar, hval, if_pos (by omega), ofNat_eq hn.symm]

theorem encodeChar_two (hlow : 0xC0 ≤ a.toNat) (hhigh : a.toNat < 0xE0)
    (h₁ : continuation? b₁ = some x₁) (hc : scalar? 0x80 ((a.toNat - 0xC0) * 64 + x₁) = some c) :
    String.utf8EncodeChar c = [a, b₁] := by
  have hval : c.val.toNat = c.toNat := rfl
  obtain ⟨hb₁, hlt₁⟩ := toNat_of_continuation? h₁
  obtain ⟨hn, hmin⟩ := toNat_of_scalar? hc
  rw [String.utf8EncodeChar, hval, if_neg (by omega), if_pos (by omega),
    @ofNat_eq a _ (by omega), @ofNat_eq b₁ _ (by omega)]

theorem encodeChar_three (hlow : 0xE0 ≤ a.toNat) (hhigh : a.toNat < 0xF0)
    (h₁ : continuation? b₁ = some x₁) (h₂ : continuation? b₂ = some x₂)
    (hc : scalar? 0x800 (((a.toNat - 0xE0) * 64 + x₁) * 64 + x₂) = some c) :
    String.utf8EncodeChar c = [a, b₁, b₂] := by
  have hval : c.val.toNat = c.toNat := rfl
  obtain ⟨hb₁, hlt₁⟩ := toNat_of_continuation? h₁
  obtain ⟨hb₂, hlt₂⟩ := toNat_of_continuation? h₂
  obtain ⟨hn, hmin⟩ := toNat_of_scalar? hc
  rw [String.utf8EncodeChar, hval, if_neg (by omega), if_neg (by omega), if_pos (by omega),
    @ofNat_eq a _ (by omega), @ofNat_eq b₁ _ (by omega), @ofNat_eq b₂ _ (by omega)]

theorem encodeChar_four (hlow : 0xF0 ≤ a.toNat) (hhigh : a.toNat < 0xF8)
    (h₁ : continuation? b₁ = some x₁) (h₂ : continuation? b₂ = some x₂)
    (h₃ : continuation? b₃ = some x₃)
    (hc : scalar? 0x10000 ((((a.toNat - 0xF0) * 64 + x₁) * 64 + x₂) * 64 + x₃) = some c) :
    String.utf8EncodeChar c = [a, b₁, b₂, b₃] := by
  have hval : c.val.toNat = c.toNat := rfl
  obtain ⟨hb₁, hlt₁⟩ := toNat_of_continuation? h₁
  obtain ⟨hb₂, hlt₂⟩ := toNat_of_continuation? h₂
  obtain ⟨hb₃, hlt₃⟩ := toNat_of_continuation? h₃
  obtain ⟨hn, hmin⟩ := toNat_of_scalar? hc
  rw [String.utf8EncodeChar, hval, if_neg (by omega), if_neg (by omega), if_neg (by omega),
    @ofNat_eq a _ (by omega), @ofNat_eq b₁ _ (by omega), @ofNat_eq b₂ _ (by omega),
    @ofNat_eq b₃ _ (by omega)]

end Forms

/-- What is decoded begins with the bytes of its first character. -/
theorem exists_of_decode_cons {a : UInt8} {rest : Bytes} {s : List Char}
    (h : decode (a :: rest) = some s) :
    ∃ c t behind, s = c :: t ∧ a :: rest = String.utf8EncodeChar c ++ behind ∧
      decode behind = some t := by
  rw [decode.eq_def] at h
  simp only at h
  split_ifs at h with h1 h2 h3 h4 h5
  · simp only [Option.bind_eq_bind, Option.bind_eq_some_iff, Option.pure_def, Option.some.injEq] at h
    obtain ⟨c, hc, t, ht, rfl⟩ := h
    exact ⟨c, t, rest, rfl, by rw [encodeChar_one h1 hc, List.singleton_append], ht⟩
  · split at h
    case h_2 => cases h
    case h_1 b₁ rest =>
      simp only [Option.bind_eq_bind, Option.bind_eq_some_iff, Option.pure_def,
        Option.some.injEq] at h
      obtain ⟨x₁, h₁, c, hc, t, ht, rfl⟩ := h
      exact ⟨c, t, rest, rfl, by rw [encodeChar_two (by omega) h3 h₁ hc]; rfl, ht⟩
  · split at h
    case h_2 => cases h
    case h_1 b₁ b₂ rest =>
      simp only [Option.bind_eq_bind, Option.bind_eq_some_iff, Option.pure_def,
        Option.some.injEq] at h
      obtain ⟨x₁, h₁, x₂, h₂, c, hc, t, ht, rfl⟩ := h
      exact ⟨c, t, rest, rfl, by rw [encodeChar_three (by omega) h4 h₁ h₂ hc]; rfl, ht⟩
  · split at h
    case h_2 => cases h
    case h_1 b₁ b₂ b₃ rest =>
      simp only [Option.bind_eq_bind, Option.bind_eq_some_iff, Option.pure_def,
        Option.some.injEq] at h
      obtain ⟨x₁, h₁, x₂, h₂, x₃, h₃, c, hc, t, ht, rfl⟩ := h
      exact ⟨c, t, rest, rfl, by rw [encodeChar_four (by omega) h5 h₁ h₂ h₃ hc]; rfl, ht⟩

/-- Only the bytes of a text are decoded to it. -/
theorem encode_of_decode {b : Bytes} {s : List Char} (h : decode b = some s) : encode s = b := by
  match b with
  | [] =>
      rw [decode, Option.some.injEq] at h
      rw [← h, encode_nil]
  | a :: rest =>
      obtain ⟨c, t, behind, rfl, hbytes, ht⟩ := exists_of_decode_cons h
      have hshorter : behind.length < (a :: rest).length := by
        rw [hbytes, List.length_append, String.length_utf8EncodeChar]
        exact Nat.lt_add_of_pos_left c.utf8Size_pos
      have ih := encode_of_decode ht
      rw [encode_cons, ih, hbytes]
termination_by b.length
decreasing_by exact hshorter

theorem encode_injective {s t : List Char} (h : encode s = encode t) : s = t := by
  have hdecode := congrArg decode h
  rw [decode_encode, decode_encode] at hdecode
  exact Option.some.inj hdecode

/-- No byte of a character is below 0x20 unless the character is. -/
theorem le_of_mem_encodeChar {c : Char} (hc : 0x20 ≤ c.toNat) {b : UInt8}
    (hb : b ∈ String.utf8EncodeChar c) : 0x20 ≤ b.toNat := by
  have hmax := toNat_lt_of_char c
  have hval : c.val.toNat = c.toNat := rfl
  have hbyte : ∀ n, n < 256 → 0x20 ≤ n → 0x20 ≤ (UInt8.ofNat n).toNat := by
    intro n hn hlow
    rwa [toNat_byte hn]
  rw [String.utf8EncodeChar, hval] at hb
  split at hb
  · rw [List.mem_singleton] at hb
    subst hb
    exact hbyte _ (by omega) hc
  · split at hb
    · simp only [List.mem_cons, List.not_mem_nil, or_false] at hb
      rcases hb with rfl | rfl <;> exact hbyte _ (by omega) (by omega)
    · split at hb
      · simp only [List.mem_cons, List.not_mem_nil, or_false] at hb
        rcases hb with rfl | rfl | rfl <;> exact hbyte _ (by omega) (by omega)
      · simp only [List.mem_cons, List.not_mem_nil, or_false] at hb
        rcases hb with rfl | rfl | rfl | rfl <;> exact hbyte _ (by omega) (by omega)

theorem le_of_mem_encode {s : List Char} (hs : ∀ c ∈ s, 0x20 ≤ c.toNat) {b : UInt8}
    (hb : b ∈ encode s) : 0x20 ≤ b.toNat := by
  obtain ⟨c, hc, hbc⟩ := List.mem_flatMap.1 hb
  exact le_of_mem_encodeChar (hs c hc) hbc

end Utf8

theorem bytes_injective {s t : String} (h : bytes s = bytes t) : s = t :=
  String.toList_inj.1 (Utf8.encode_injective h)

theorem bytes_append (s t : String) : bytes (s ++ t) = bytes s ++ bytes t := by
  rw [bytes, String.toList_append, Utf8.encode_append]
  rfl

theorem ofBytes?_bytes (s : String) : ofBytes? (bytes s) = some s := by
  rw [ofBytes?, bytes, Utf8.decode_encode, Option.map_some, String.ofList_toList]

theorem bytes_of_ofBytes? {b : Bytes} {s : String} (h : ofBytes? b = some s) : bytes s = b := by
  obtain ⟨cs, hcs, rfl⟩ := Option.map_eq_some_iff.1 h
  rw [bytes, String.toList_ofList, Utf8.encode_of_decode hcs]

end MeshRegistry.Text
