import MeshRegistry.Proofs.Text.Utf8

/-!
# Texts that are cut short

A beginning of a text that is not all of it.  The bytes of a text may be cut between two characters,
where they are the bytes of a text that is cut short, or inside one, where they are the bytes of none.
-/

namespace MeshRegistry.Text

variable {α : Type}

/-- `p` is a beginning of `s`, and something is missing. -/
def CutShort (p s : List α) : Prop :=
  ∃ missing, missing ≠ [] ∧ p ++ missing = s

theorem not_cutShort_nil {p : List α} : ¬ CutShort p [] := by
  rintro ⟨missing, hmissing, happend⟩
  exact hmissing (List.append_eq_nil_iff.1 happend).2

theorem cutShort_cons_iff {p : List α} {a : α} {s : List α} :
    CutShort p (a :: s) ↔ p = [] ∨ ∃ p', p = a :: p' ∧ CutShort p' s := by
  cases p with
  | nil => simp [CutShort]
  | cons b p =>
      simp only [CutShort, List.cons_append, List.cons.injEq, reduceCtorEq, false_or]
      constructor
      · rintro ⟨missing, hmissing, rfl, happend⟩
        exact ⟨p, ⟨rfl, rfl⟩, missing, hmissing, happend⟩
      · rintro ⟨_, ⟨rfl, rfl⟩, missing, hmissing, happend⟩
        exact ⟨missing, hmissing, rfl, happend⟩

theorem CutShort.length_lt {p s : List α} (h : CutShort p s) : p.length < s.length := by
  obtain ⟨missing, hmissing, rfl⟩ := h
  have hpos := List.length_pos_iff.2 hmissing
  rw [List.length_append]
  omega

theorem CutShort.eq_nil {p : List α} {a : α} (h : CutShort p [a]) : p = [] :=
  List.length_eq_zero_iff.1 (Nat.lt_one_iff.1 h.length_lt)

theorem CutShort.forall_mem {p s : List α} {motive : α → Prop} (h : CutShort p s)
    (hs : ∀ a ∈ s, motive a) : ∀ a ∈ p, motive a := by
  obtain ⟨missing, -, rfl⟩ := h
  exact fun a ha => hs a (List.mem_append_left missing ha)

theorem CutShort.of_isPrefix {p t s : List α} (h : CutShort t s) (hp : p <+: t) : CutShort p s := by
  obtain ⟨more, rfl⟩ := hp
  obtain ⟨missing, hmissing, rfl⟩ := h
  exact ⟨more ++ missing, by simp [hmissing], by rw [List.append_assoc]⟩

/-- What is cut short is cut in its first part or behind it. -/
theorem CutShort.of_append {p s t : List α} (h : CutShort p (s ++ t)) :
    CutShort p s ∨ ∃ p', p = s ++ p' ∧ CutShort p' t := by
  induction s generalizing p with
  | nil => exact .inr ⟨p, rfl, h⟩
  | cons a s ih =>
      obtain rfl | ⟨p, rfl, hp⟩ := cutShort_cons_iff.1 h
      · exact .inl (cutShort_cons_iff.2 (.inl rfl))
      · obtain hp | ⟨p', rfl, hp'⟩ := ih hp
        · exact .inl (cutShort_cons_iff.2 (.inr ⟨p, rfl, hp⟩))
        · exact .inr ⟨p', rfl, hp'⟩

namespace Utf8

/-! ## Cuts between characters and inside one -/

/-- The bytes end inside a character of the text. -/
def EndsInside (p : Bytes) (s : List Char) : Prop :=
  ∃ before c after part, s = before ++ c :: after ∧ part ≠ [] ∧
    CutShort part (String.utf8EncodeChar c) ∧ p = encode before ++ part

theorem decode_encode_append (s : List Char) (rest : Bytes) :
    decode (encode s ++ rest) = (decode rest).map (s ++ ·) := by
  induction s with
  | nil => simp
  | cons c s ih =>
      rw [encode_cons, List.append_assoc, decode_encodeChar, ih, Option.map_map]
      rfl

/-! A longer form whose last bytes are missing. -/

theorem decode_two_short {a : UInt8} (hlow : 0xC0 ≤ a.toNat) (hhigh : a.toNat < 0xE0) :
    decode [a] = none := by
  rw [decode.eq_def]
  simp only [if_neg (show ¬ a.toNat < 0x80 by omega), if_neg (show ¬ a.toNat < 0xC0 by omega),
    if_pos hhigh]

theorem decode_three_short {a : UInt8} {rest : Bytes} (hlow : 0xE0 ≤ a.toNat)
    (hhigh : a.toNat < 0xF0) (hrest : rest.length < 2) : decode (a :: rest) = none := by
  rw [decode.eq_def]
  simp only [if_neg (show ¬ a.toNat < 0x80 by omega), if_neg (show ¬ a.toNat < 0xC0 by omega),
    if_neg (show ¬ a.toNat < 0xE0 by omega), if_pos hhigh]
  split
  · simp only [List.length_cons] at hrest
    omega
  · rfl

theorem decode_four_short {a : UInt8} {rest : Bytes} (hlow : 0xF0 ≤ a.toNat)
    (hhigh : a.toNat < 0xF8) (hrest : rest.length < 3) : decode (a :: rest) = none := by
  rw [decode.eq_def]
  simp only [if_neg (show ¬ a.toNat < 0x80 by omega), if_neg (show ¬ a.toNat < 0xC0 by omega),
    if_neg (show ¬ a.toNat < 0xE0 by omega), if_neg (show ¬ a.toNat < 0xF0 by omega),
    if_pos hhigh]
  split
  · simp only [List.length_cons] at hrest
    omega
  · rfl

theorem decode_of_cutShort {c : Char} {part : Bytes} (hpart : part ≠ [])
    (h : CutShort part (String.utf8EncodeChar c)) : decode part = none := by
  have hbyte : ∀ n, n < 256 → (UInt8.ofNat n).toNat = n := fun n hn => UInt8.toNat_ofNat_of_lt' hn
  have hmax := toNat_lt_of_char c
  have hval : c.val.toNat = c.toNat := rfl
  rw [String.utf8EncodeChar, hval] at h
  by_cases h1 : c.toNat ≤ 127
  · rw [if_pos h1] at h
    exact absurd h.eq_nil hpart
  rw [if_neg h1] at h
  by_cases h2 : c.toNat ≤ 2047
  · rw [if_pos h2] at h
    obtain rfl | ⟨tail, rfl, htail⟩ := cutShort_cons_iff.1 h
    · exact absurd rfl hpart
    have hlead := hbyte (c.toNat / 64 % 32 + 192) (by omega)
    rw [htail.eq_nil]
    exact decode_two_short (by omega) (by omega)
  rw [if_neg h2] at h
  by_cases h3 : c.toNat ≤ 65535
  · rw [if_pos h3] at h
    obtain rfl | ⟨tail, rfl, htail⟩ := cutShort_cons_iff.1 h
    · exact absurd rfl hpart
    have hlead := hbyte (c.toNat / 4096 % 16 + 224) (by omega)
    exact decode_three_short (by omega) (by omega) htail.length_lt
  · rw [if_neg h3] at h
    obtain rfl | ⟨tail, rfl, htail⟩ := cutShort_cons_iff.1 h
    · exact absurd rfl hpart
    have hlead := hbyte (c.toNat / 262144 % 8 + 240) (by omega)
    exact decode_four_short (by omega) (by omega) htail.length_lt

theorem EndsInside.decode_eq {p : Bytes} {s : List Char} (h : EndsInside p s) : decode p = none := by
  obtain ⟨before, c, after, part, -, hpart, hcut, rfl⟩ := h
  rw [decode_encode_append, decode_of_cutShort hpart hcut, Option.map_none]

theorem EndsInside.ne_nil {p : Bytes} {s : List Char} (h : EndsInside p s) : p ≠ [] := by
  obtain ⟨before, c, after, part, -, hpart, -, rfl⟩ := h
  exact List.append_ne_nil_of_right_ne_nil _ hpart

theorem not_endsInside_encode (t s : List Char) : ¬ EndsInside (encode t) s := by
  intro h
  have hnone := h.decode_eq
  rw [decode_encode] at hnone
  cases hnone

/-- Bytes that are cut short end inside a character, or are those of a text that is cut short. -/
theorem endsInside_or_of_cutShort {p : Bytes} {s : List Char} (h : CutShort p (encode s)) :
    EndsInside p s ∨ ∃ t, CutShort t s ∧ p = encode t := by
  induction s generalizing p with
  | nil => exact absurd h not_cutShort_nil
  | cons c s ih =>
      rw [encode_cons] at h
      obtain hchar | ⟨p', rfl, hp'⟩ := h.of_append
      · by_cases hp : p = []
        · subst hp
          exact .inr ⟨[], ⟨c :: s, List.cons_ne_nil c s, rfl⟩, rfl⟩
        · exact .inl ⟨[], c, s, p, rfl, hp, hchar, rfl⟩
      · obtain ⟨before, d, after, part, rfl, hpart, hcut, rfl⟩ | ⟨t, ht, rfl⟩ := ih hp'
        · exact .inl ⟨c :: before, d, after, part, rfl, hpart, hcut, (List.append_assoc _ _ _).symm⟩
        · exact .inr ⟨c :: t, cutShort_cons_iff.2 (.inr ⟨t, rfl, ht⟩), rfl⟩

end Utf8

end MeshRegistry.Text
