import MeshRegistry.Json.Decode
import MeshRegistry.Json.Value

/-!
# Reading back what was written: strings

A decoder takes a text when it reads it off the front of any longer input.  Strings are taken whatever
characters they hold.
-/

namespace MeshRegistry.Json

variable {α β : Type}

/-! ## Taking a text from the front of an input -/

/-- What may stand behind a value: the end, a comma or a closing bracket. -/
def Delimited (rest : List Char) : Prop :=
  ∀ c ∈ rest.head?, c = ',' ∨ c = ']' ∨ c = '\x7d'

/-- The decoder reads the value `a` off any input that starts with the text `s`, and leaves what stands
behind it. -/
def Decoder.Takes (d : Decoder α) (s : List Char) (a : α) : Prop :=
  ∀ rest, Delimited rest → ∃ h, d (s ++ rest) = .ok ⟨a, rest, h⟩

theorem delimited_nil : Delimited [] := by
  intro c hc
  cases hc

theorem delimited_comma (rest : List Char) : Delimited (',' :: rest) := by
  intro c hc
  cases hc
  exact .inl rfl

theorem delimited_brace (rest : List Char) : Delimited ('\x7d' :: rest) := by
  intro c hc
  cases hc
  exact .inr (.inr rfl)

theorem Decoder.Takes.map {d : Decoder α} {s : List Char} {a : α} (h : d.Takes s a) (f : α → β) :
    (d.map f).Takes s (f a) := by
  intro rest hrest
  obtain ⟨hshorter, hd⟩ := h rest hrest
  exact ⟨hshorter, by rw [Decoder.map, hd]; rfl⟩

theorem decodeAll_of_takes {d : Decoder α} {s : List Char} {a : α} (h : d.Takes s a) :
    decodeAll d s = .ok a := by
  obtain ⟨hshorter, hd⟩ := h [] delimited_nil
  suffices hall : decodeAll d (s ++ []) = .ok a by rwa [List.append_nil] at hall
  rw [decodeAll, hd]
  rfl

theorem skipSpace_cons {c : Char} (h : isSpace c = false) (rest : List Char) :
    skipSpace (c :: rest) = .all (c :: rest) :=
  Subtype.ext (List.dropWhile_cons_of_neg (by simp [h]))

/-! ## Characters -/

theorem hexDigit?_hexDigit : ∀ n < 16, Text.hexDigit? (hexDigit n) = some n := by
  decide

theorem hexDigits?_control {n : Nat} (hn : n < 0x20) :
    hexDigits? '0' '0' (hexDigit (n / 16)) (hexDigit (n % 16)) = some n := by
  have hzero : Text.hexDigit? '0' = some 0 := by decide
  have hhigh := hexDigit?_hexDigit (n / 16) (by omega)
  have hlow := hexDigit?_hexDigit (n % 16) (by omega)
  simp only [hexDigits?, hzero, hhigh, hlow, Option.bind_eq_bind, Option.bind_some]
  show some (((0 * 16 + 0) * 16 + n / 16) * 16 + n % 16) = some n
  congr 1
  omega

/-- A control character that has no letter of its own is written by its number. -/
theorem readEscape_control {c : Char} (hc : c.toNat < 0x20) (rest : List Char) :
    ∃ h, readEscape
      ('u' :: '0' :: '0' :: hexDigit (c.toNat / 16) :: hexDigit (c.toNat % 16) :: rest) =
        .ok ⟨c, rest, h⟩ := by
  have hlow : isLowSurrogate c.toNat = false := by
    simp only [isLowSurrogate, Bool.and_eq_false_iff, decide_eq_false_iff_not]
    omega
  have hhigh : isHighSurrogate c.toNat = false := by
    simp only [isHighSurrogate, Bool.and_eq_false_iff, decide_eq_false_iff_not]
    omega
  refine ⟨by simp only [List.length_cons]; omega, ?_⟩
  simp only [readEscape, show simpleEscape? 'u' = none from rfl, if_true, readUnicode, readHex,
    hexDigits?_control hc, hlow, hhigh, Bool.false_eq_true, if_false, Char.ofNat_toNat]
  rfl

theorem readChars_escape {before input rest : List Char} {c : Char} {h : rest.length < input.length}
    (hc : readEscape input = .ok ⟨c, rest, h⟩) :
    readChars before ('\\' :: input) = readChars (c :: before) rest := by
  rw [readChars, if_neg (by decide), if_pos rfl, hc]

theorem readEscape_simple {c e : Char} (h : simpleEscape? c = some e) (rest : List Char) :
    readEscape (c :: rest) = .ok ⟨e, rest, Nat.lt_succ_self _⟩ := by
  rw [readEscape, h]

/-- A character is written behind a backslash, by its number, or as it is. -/
theorem escaped_cases (c : Char) :
    (∃ e, escaped c = ['\\', e] ∧ simpleEscape? e = some c) ∨
      (escaped c = ['\\', 'u', '0', '0', hexDigit (c.toNat / 16), hexDigit (c.toNat % 16)] ∧
        c.toNat < 0x20) ∨
      (escaped c = [c] ∧ c ≠ '"' ∧ c ≠ '\\' ∧ ¬ c.toNat < 0x20) := by
  rw [escaped]
  split
  · next h => exact .inl ⟨'"', rfl, by rw [h]; rfl⟩
  split
  · next h => exact .inl ⟨'\\', rfl, by rw [h]; rfl⟩
  split
  · next h => exact .inl ⟨'b', rfl, by rw [h]; rfl⟩
  split
  · next h => exact .inl ⟨'f', rfl, by rw [h]; rfl⟩
  split
  · next h => exact .inl ⟨'n', rfl, by rw [h]; rfl⟩
  split
  · next h => exact .inl ⟨'r', rfl, by rw [h]; rfl⟩
  split
  · next h => exact .inl ⟨'t', rfl, by rw [h]; rfl⟩
  split
  · next h => exact .inr (.inl ⟨rfl, h⟩)
  · next hquote hslash _ _ _ _ _ h => exact .inr (.inr ⟨rfl, hquote, hslash, h⟩)

theorem readChars_escaped (before : List Char) (c : Char) (rest : List Char) :
    readChars before (escaped c ++ rest) = readChars (c :: before) rest := by
  obtain ⟨e, hwritten, he⟩ | ⟨hwritten, hc⟩ | ⟨hwritten, hquote, hslash, hc⟩ := escaped_cases c
  · rw [hwritten]
    exact readChars_escape (readEscape_simple he rest)
  · rw [hwritten]
    obtain ⟨h, hread⟩ := readEscape_control hc rest
    exact readChars_escape hread
  · rw [hwritten, List.singleton_append, readChars, if_neg hquote, if_neg hslash, if_neg hc]

theorem readChars_flatMap_escaped (before s rest : List Char) :
    readChars before (s.flatMap escaped ++ '"' :: rest) = .ok (before.reverse ++ s, rest) := by
  induction s generalizing before with
  | nil => rw [List.flatMap_nil, List.nil_append, readChars, if_pos rfl, List.append_nil]
  | cons c s ih =>
      rw [List.flatMap_cons, List.append_assoc, readChars_escaped, ih, List.reverse_cons,
        List.append_assoc, List.singleton_append]

theorem readString_flatMap_escaped (s : String) (rest : List Char) :
    ∃ h, readString (s.toList.flatMap escaped ++ '"' :: rest) = .ok ⟨s, rest, h⟩ := by
  have hread := readChars_flatMap_escaped [] s.toList rest
  rw [List.reverse_nil, List.nil_append] at hread
  refine ⟨readChars_shorter hread, ?_⟩
  rw [readString]
  split
  · next hs => rw [hread] at hs; cases hs
  · next hs =>
    rw [hread] at hs
    cases hs
    simp

theorem writeString_append (s : String) (rest : List Char) :
    writeString s ++ rest = '"' :: (s.toList.flatMap escaped ++ '"' :: rest) := by
  rw [writeString, List.append_assoc, List.singleton_append, List.cons_append]

/-- Every string is read back, whatever stands behind it. -/
theorem text_takes (s : String) : text.Takes (Value.text s).write s := by
  intro rest _
  obtain ⟨h, hread⟩ := readString_flatMap_escaped s rest
  rw [Value.write, writeString_append]
  refine ⟨Nat.lt_succ_of_lt h, ?_⟩
  rw [text, skipSpace_cons (by decide)]
  simp only [Rest.all, if_true, hread]
  rfl

end MeshRegistry.Json
