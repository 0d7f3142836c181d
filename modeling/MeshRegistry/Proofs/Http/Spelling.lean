import MeshRegistry.Http.Percent
import MeshRegistry.Http.Target
import MeshRegistry.Proofs.Text.Case
import MeshRegistry.Proofs.Text.Utf8

/-!
# Spellings

A name is spelled byte by byte in a part of a path: a byte stands as the character it is if that has no
meaning of its own in an address, or as a percent sign and two hexadecimal digits of either case.  What
is decoded is what was spelled, and text that is pasted as it stands spells itself unless two digits
follow one of its percent signs.
-/

namespace MeshRegistry.Http

open Text (Bytes)
open Text.Utf8 (encode encode_cons)

/-! ## Ways to spell bytes -/

/-- Has the character no meaning of its own anywhere in an address? -/
def isUnreserved (c : Char) : Bool :=
  c.isAlphanum || "-._~".toList.contains c

/-- A hexadecimal digit of either case, for a number below sixteen. -/
def IsHexDigit (c : Char) (n : Nat) : Prop :=
  c = n.digitChar ∨ c = n.digitChar.toUpper

inductive SpellsByte : List Char → UInt8 → Prop where
  | raw {c : Char} (h : isUnreserved c = true) : SpellsByte [c] (UInt8.ofNat c.toNat)
  | escaped {x y : Char} {b : UInt8} (hx : IsHexDigit x (b.toNat / 16))
      (hy : IsHexDigit y (b.toNat % 16)) : SpellsByte ['%', x, y] b

/-- The text spells the bytes one by one, each in its own way. -/
inductive Spells : List Char → Bytes → Prop where
  | nil : Spells [] []
  | cons {w s : List Char} {b : UInt8} {bs : Bytes} (hw : SpellsByte w b) (hs : Spells s bs) :
      Spells (w ++ s) (b :: bs)

theorem hexDigit?_of_isHexDigit {c : Char} {n : Nat} (hn : n < 16) (h : IsHexDigit c n) :
    Text.hexDigit? c = some n := by
  have hdigits : ∀ n < 16, Text.hexDigit? n.digitChar = some n ∧
      Text.hexDigit? n.digitChar.toUpper = some n := by decide
  obtain rfl | rfl := h
  · exact (hdigits n hn).1
  · exact (hdigits n hn).2

theorem lt_of_isUnreserved {c : Char} (h : isUnreserved c = true) : c.toNat < 0x80 := by
  have hupper : c.isUpper = decide (c.val ≥ 65 ∧ c.val ≤ 90) := rfl
  have hlower : c.isLower = (decide (c.val ≥ 97) && decide (c.val ≤ 122)) := rfl
  have hdigit : c.isDigit = (decide (c.val ≥ 48) && decide (c.val ≤ 57)) := rfl
  have hparts : isUnreserved c =
      (c.isUpper || c.isLower || c.isDigit || "-._~".toList.contains c) := rfl
  simp only [hparts, hupper, hlower, hdigit, Bool.or_eq_true, Bool.and_eq_true, decide_eq_true_eq,
    UInt32.le_iff_toNat_le] at h
  rcases h with ((⟨-, h⟩ | ⟨-, h⟩) | ⟨-, h⟩) | h
  · exact Nat.lt_of_le_of_lt h (by decide)
  · exact Nat.lt_of_le_of_lt h (by decide)
  · exact Nat.lt_of_le_of_lt h (by decide)
  · have hmarks : c = '-' ∨ c = '.' ∨ c = '_' ∨ c = '~' := by simpa using h
    rcases hmarks with rfl | rfl | rfl | rfl <;> decide

theorem encodeChar_ascii {c : Char} (h : c.toNat < 0x80) :
    String.utf8EncodeChar c = [UInt8.ofNat c.toNat] := by
  have hval : c.val.toNat = c.toNat := rfl
  rw [String.utf8EncodeChar, hval, if_pos (Nat.le_of_lt_succ h)]

/-- A character without a meaning of its own may stand in a path, and neither ends a part of it nor
begins an escape. -/
theorem isPathChar_of_isUnreserved {c : Char} (h : isUnreserved c = true) :
    isPathChar c = true ∧ c ≠ '/' ∧ c ≠ '%' := by
  have hc := lt_of_isUnreserved h
  revert h
  exact Text.ascii_induction
    (P := fun c => isUnreserved c = true → isPathChar c = true ∧ c ≠ '/' ∧ c ≠ '%')
    (by decide +kernel) hc

theorem isPathChar_of_isHexDigit {c : Char} {n : Nat} (hn : n < 16) (h : IsHexDigit c n) :
    isPathChar c = true ∧ c ≠ '/' := by
  have hdigits : ∀ n < 16, (isPathChar n.digitChar = true ∧ n.digitChar ≠ '/') ∧
      isPathChar n.digitChar.toUpper = true ∧ n.digitChar.toUpper ≠ '/' := by decide
  obtain rfl | rfl := h
  · exact (hdigits n hn).1
  · exact (hdigits n hn).2

/-- A spelling stays inside one part of a path. -/
theorem Spells.forall_mem {s : List Char} {bs : Bytes} (h : Spells s bs) :
    ∀ c ∈ s, isPathChar c = true ∧ c ≠ '/' := by
  induction h with
  | nil => simp
  | @cons w s b bs hw _ ih =>
      intro c hc
      rcases List.mem_append.1 hc with hc | hc
      · cases hw with
        | raw hraw =>
            rw [List.mem_singleton] at hc
            obtain ⟨hpath, hslash, -⟩ := isPathChar_of_isUnreserved hraw
            exact hc ▸ ⟨hpath, hslash⟩
        | escaped hx hy =>
            have hb := b.toNat_lt
            simp only [List.mem_cons, List.not_mem_nil, or_false] at hc
            rcases hc with rfl | rfl | rfl
            · decide
            · exact isPathChar_of_isHexDigit (by omega) hx
            · exact isPathChar_of_isHexDigit (by omega) hy
      · exact ih c hc

/-! ## Decoding -/

/-- Two hexadecimal digits come first. -/
def StartsWithHexPair (s : List Char) : Prop :=
  ∃ x y rest, s = x :: y :: rest ∧ (Text.hexDigit? x).isSome = true ∧ (Text.hexDigit? y).isSome = true

@[simp] theorem percentDecode_nil : percentDecode [] = [] := by
  rw [percentDecode]

theorem percentDecode_cons {c : Char} (h : c ≠ '%') (s : List Char) :
    percentDecode (c :: s) = String.utf8EncodeChar c ++ percentDecode s := by
  rw [percentDecode]
  rintro a b rest rfl
  exact absurd rfl h

theorem percentDecode_escape {x y : Char} {high low : Nat} (hx : Text.hexDigit? x = some high)
    (hy : Text.hexDigit? y = some low) (s : List Char) :
    percentDecode ('%' :: x :: y :: s) = UInt8.ofNat (16 * high + low) :: percentDecode s := by
  rw [percentDecode, hx, hy]

/-- A percent sign with no two digits behind it stands for itself. -/
theorem percentDecode_percent {s : List Char} (h : ¬ StartsWithHexPair s) :
    percentDecode ('%' :: s) = percentSign :: percentDecode s := by
  match s with
  | [] => decide
  | [c] =>
      rw [percentDecode]
      · rfl
      · simp
  | x :: y :: rest =>
      rw [percentDecode]
      cases hx : Text.hexDigit? x with
      | none => rfl
      | some high =>
          cases hy : Text.hexDigit? y with
          | none => rfl
          | some low => exact absurd ⟨x, y, rest, rfl, by rw [hx]; rfl, by rw [hy]; rfl⟩ h

/-- What is decoded is what was spelled, whatever stands behind it. -/
theorem percentDecode_append {s : List Char} {bs : Bytes} (h : Spells s bs) (rest : List Char) :
    percentDecode (s ++ rest) = bs ++ percentDecode rest := by
  induction h with
  | nil => rfl
  | @cons w s b bs hw _ ih =>
      rw [List.append_assoc]
      cases hw with
      | raw hraw =>
          have hpercent := (isPathChar_of_isUnreserved hraw).2.2
          rw [List.singleton_append, percentDecode_cons hpercent,
            encodeChar_ascii (lt_of_isUnreserved hraw), ih]
          rfl
      | escaped hx hy =>
          have hb := b.toNat_lt
          have hbyte : 16 * (b.toNat / 16) + b.toNat % 16 = b.toNat := by omega
          rw [List.cons_append, List.cons_append, List.singleton_append,
            percentDecode_escape (hexDigit?_of_isHexDigit (by omega) hx)
              (hexDigit?_of_isHexDigit (by omega) hy), ih, hbyte, UInt8.ofNat_toNat]
          rfl

theorem spelledText?_of_spells {s : List Char} {k : String} (h : Spells s (Text.bytes k)) :
    spelledText? s = some k := by
  have hdecode := percentDecode_append h []
  rw [List.append_nil, percentDecode_nil, List.append_nil] at hdecode
  rw [spelledText?, hdecode, Text.ofBytes?, Text.bytes, Text.Utf8.decode_encode, Option.map_some,
    String.ofList_toList]

/-- Text whose characters have no meaning of their own spells itself. -/
theorem spells_self {s : List Char} (h : ∀ c ∈ s, isUnreserved c = true) : Spells s (encode s) := by
  induction s with
  | nil => exact .nil
  | cons c s ih =>
      rw [List.forall_mem_cons] at h
      rw [encode_cons, encodeChar_ascii (lt_of_isUnreserved h.1)]
      exact .cons (.raw h.1) (ih h.2)

/-! ## Text that is pasted -/

/-- Some percent sign has two hexadecimal digits behind it. -/
def HasEscape (s : List Char) : Prop :=
  ∃ before behind, s = before ++ '%' :: behind ∧ StartsWithHexPair behind

theorem not_hasEscape_nil : ¬ HasEscape [] := by
  rintro ⟨before, behind, h, -⟩
  simp at h

theorem hasEscape_cons_iff {c : Char} {s : List Char} :
    HasEscape (c :: s) ↔ (c = '%' ∧ StartsWithHexPair s) ∨ HasEscape s := by
  constructor
  · rintro ⟨before, behind, h, hpair⟩
    cases before with
    | nil =>
        obtain ⟨rfl, rfl⟩ := List.cons.inj h
        exact .inl ⟨rfl, hpair⟩
    | cons d before =>
        obtain ⟨-, rfl⟩ := List.cons.inj h
        exact .inr ⟨before, behind, rfl, hpair⟩
  · rintro (⟨rfl, hpair⟩ | ⟨before, behind, rfl, hpair⟩)
    · exact ⟨[], s, rfl, hpair⟩
    · exact ⟨c :: before, behind, rfl, hpair⟩

/-- Text without escapes spells itself. -/
theorem percentDecode_of_not_hasEscape {s : List Char} (h : ¬ HasEscape s) :
    percentDecode s = encode s := by
  induction s with
  | nil => exact percentDecode_nil
  | cons c s ih =>
      rw [hasEscape_cons_iff, not_or, not_and] at h
      by_cases hc : c = '%'
      · subst hc
        rw [percentDecode_percent (h.1 rfl), ih h.2]
        rfl
      · rw [percentDecode_cons hc, ih h.2, encode_cons]

theorem length_encodeChar_pos (c : Char) : 0 < (String.utf8EncodeChar c).length := by
  rw [String.length_utf8EncodeChar]
  exact c.utf8Size_pos

theorem length_percentDecode_le (s : List Char) :
    (percentDecode s).length ≤ (encode s).length ∧
      (HasEscape s → (percentDecode s).length < (encode s).length) := by
  match s with
  | [] =>
      rw [percentDecode_nil]
      exact ⟨Nat.le_refl _, fun h => absurd h not_hasEscape_nil⟩
  | c :: s =>
      rw [hasEscape_cons_iff, encode_cons, List.length_append]
      by_cases hc : c = '%'
      · subst hc
        by_cases hpair : StartsWithHexPair s
        · obtain ⟨x, y, rest, rfl, hx, hy⟩ := hpair
          obtain ⟨high, hx⟩ := Option.isSome_iff_exists.1 hx
          obtain ⟨low, hy⟩ := Option.isSome_iff_exists.1 hy
          have hrest := (length_percentDecode_le rest).1
          have hpos := length_encodeChar_pos
          have hshorter : (percentDecode ('%' :: x :: y :: rest)).length <
              (String.utf8EncodeChar '%').length + (encode (x :: y :: rest)).length := by
            rw [percentDecode_escape hx hy, List.length_cons, encode_cons, encode_cons,
              List.length_append, List.length_append]
            have := hpos '%'
            have := hpos x
            have := hpos y
            omega
          exact ⟨hshorter.le, fun _ => hshorter⟩
        · have hsign : (String.utf8EncodeChar '%').length = 1 := by decide
          obtain ⟨hle, hlt⟩ := length_percentDecode_le s
          rw [percentDecode_percent hpair, List.length_cons, hsign]
          refine ⟨by omega, ?_⟩
          rintro (⟨-, h⟩ | h)
          · exact absurd h hpair
          · have := hlt h
            omega
      · obtain ⟨hle, hlt⟩ := length_percentDecode_le s
        rw [percentDecode_cons hc, List.length_append]
        refine ⟨by omega, ?_⟩
        rintro (⟨h, -⟩ | h)
        · exact absurd h hc
        · have := hlt h
          omega
termination_by s.length

/-- Text spells itself just when it holds no escapes. -/
theorem percentDecode_eq_encode_iff {s : List Char} :
    percentDecode s = encode s ↔ ¬ HasEscape s := by
  refine ⟨?_, percentDecode_of_not_hasEscape⟩
  intro hsame hescape
  have hshorter := (length_percentDecode_le s).2 hescape
  rw [hsame] at hshorter
  exact Nat.lt_irrefl _ hshorter

instance : DecidablePred HasEscape := fun _ =>
  decidable_of_iff _ (not_iff_comm.1 percentDecode_eq_encode_iff.symm)

/-! ## Encoding what is pasted -/

section Encoding

variable {isReserved : Char → Bool}

theorem spells_percentEncodeByte (b : UInt8) : SpellsByte (percentEncodeByte b) b :=
  .escaped (.inr rfl) (.inr rfl)

theorem spells_flatMap_percentEncodeByte (bs : Bytes) : Spells (bs.flatMap percentEncodeByte) bs := by
  induction bs with
  | nil => exact .nil
  | cons b bs ih => exact .cons (spells_percentEncodeByte b) ih

theorem percentEncode_cons_of_pos {c : Char} (h : isReserved c = true) (s : List Char) :
    percentEncode isReserved (c :: s) =
      (String.utf8EncodeChar c).flatMap percentEncodeByte ++ percentEncode isReserved s := by
  rw [percentEncode, List.flatMap_cons, if_pos h]
  rfl

theorem percentEncode_cons_of_neg {c : Char} (h : isReserved c = false) (s : List Char) :
    percentEncode isReserved (c :: s) = c :: percentEncode isReserved s := by
  rw [percentEncode, List.flatMap_cons, if_neg (by rw [h]; decide)]
  rfl

/-- Encoding puts no digit in front of a text. -/
theorem head?_percentEncode {c : Char} {s u : List Char} (hc : (Text.hexDigit? c).isSome = true)
    (h : percentEncode isReserved s = c :: u) :
    ∃ t, s = c :: t ∧ percentEncode isReserved t = u := by
  cases s with
  | nil => cases h
  | cons d t =>
      cases hd : isReserved d with
      | false =>
          rw [percentEncode_cons_of_neg hd] at h
          obtain ⟨rfl, rfl⟩ := List.cons.inj h
          exact ⟨t, rfl, rfl⟩
      | true =>
          rw [percentEncode_cons_of_pos hd] at h
          obtain ⟨b, bs, hbytes⟩ := List.exists_cons_of_length_pos (length_encodeChar_pos d)
          rw [hbytes] at h
          obtain ⟨rfl, -⟩ := List.cons.inj h
          cases hc

theorem startsWithHexPair_of_percentEncode {s : List Char}
    (h : StartsWithHexPair (percentEncode isReserved s)) : StartsWithHexPair s := by
  obtain ⟨x, y, rest, hs, hx, hy⟩ := h
  obtain ⟨t, rfl, ht⟩ := head?_percentEncode hx hs
  obtain ⟨u, rfl, -⟩ := head?_percentEncode hy ht
  exact ⟨x, y, u, rfl, hx, hy⟩

/-- Encoding does not change what a text spells, as long as it leaves percent signs and digits alone. -/
theorem percentDecode_percentEncode (hsign : isReserved '%' = false)
    (hdigit : ∀ c, (Text.hexDigit? c).isSome = true → isReserved c = false) (s : List Char) :
    percentDecode (percentEncode isReserved s) = percentDecode s := by
  match s with
  | [] => rfl
  | c :: s =>
      have ih := percentDecode_percentEncode hsign hdigit s
      cases hc : isReserved c with
      | true =>
          have hpercent : c ≠ '%' := by
            rintro rfl
            rw [hsign] at hc
            cases hc
          rw [percentEncode_cons_of_pos hc, percentDecode_append (spells_flatMap_percentEncodeByte _),
            percentDecode_cons hpercent, ih]
      | false =>
          rw [percentEncode_cons_of_neg hc]
          by_cases hpercent : c = '%'
          · subst hpercent
            by_cases hpair : StartsWithHexPair s
            · obtain ⟨x, y, rest, rfl, hx, hy⟩ := hpair
              have ihrest := percentDecode_percentEncode hsign hdigit rest
              obtain ⟨high, hhigh⟩ := Option.isSome_iff_exists.1 hx
              obtain ⟨low, hlow⟩ := Option.isSome_iff_exists.1 hy
              rw [percentEncode_cons_of_neg (hdigit x hx), percentEncode_cons_of_neg (hdigit y hy),
                percentDecode_escape hhigh hlow, percentDecode_escape hhigh hlow, ihrest]
            · rw [percentDecode_percent (mt startsWithHexPair_of_percentEncode hpair),
                percentDecode_percent hpair, ih]
          · rw [percentDecode_cons hpercent, percentDecode_cons hpercent, ih]
termination_by s.length

end Encoding

end MeshRegistry.Http
