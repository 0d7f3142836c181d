import MeshRegistry.Proofs.Json.Numerals

/-!
# The text of a message

No control character stands in it, whatever strings the message holds, so a message is one line.  Its
first character says what kind of value it is.
-/

namespace MeshRegistry.Json

/-- Holds no control characters of the ASCII range. -/
def NoControls (s : List Char) : Prop :=
  ∀ c ∈ s, 0x20 ≤ c.toNat

instance (s : List Char) : Decidable (NoControls s) :=
  List.decidableBAll _ s

theorem noControls_nil : NoControls [] := by
  intro c hc
  cases hc

theorem NoControls.cons {c : Char} {s : List Char} (hc : 0x20 ≤ c.toNat) (hs : NoControls s) :
    NoControls (c :: s) := by
  intro d hd
  obtain rfl | hd := List.mem_cons.1 hd
  · exact hc
  · exact hs d hd

theorem NoControls.append {s t : List Char} (hs : NoControls s) (ht : NoControls t) :
    NoControls (s ++ t) := by
  intro c hc
  obtain hc | hc := List.mem_append.1 hc
  · exact hs c hc
  · exact ht c hc

theorem le_toNat_hexDigit : ∀ n < 16, 0x20 ≤ (hexDigit n).toNat := by
  decide

theorem simpleEscape?_control : ∀ n < 0x20, simpleEscape? (Char.ofNat n) = none := by
  decide

theorem le_toNat_of_simpleEscape? {e c : Char} (h : simpleEscape? e = some c) : 0x20 ≤ e.toNat := by
  by_contra hlow
  have hnone := simpleEscape?_control e.toNat (by omega)
  rw [Char.ofNat_toNat, h] at hnone
  cases hnone

theorem noControls_escaped (c : Char) : NoControls (escaped c) := by
  obtain ⟨e, hwritten, he⟩ | ⟨hwritten, hc⟩ | ⟨hwritten, -, -, hc⟩ := escaped_cases c
  · rw [hwritten]
    exact .cons (by decide) (.cons (le_toNat_of_simpleEscape? he) noControls_nil)
  · have hhigh := le_toNat_hexDigit (c.toNat / 16) (by omega)
    have hlow := le_toNat_hexDigit (c.toNat % 16) (by omega)
    rw [hwritten]
    exact .cons (by decide) (.cons (by decide) (.cons (by decide) (.cons (by decide)
      (.cons hhigh (.cons hlow noControls_nil)))))
  · rw [hwritten]
    exact .cons (Nat.le_of_not_lt hc) noControls_nil

theorem noControls_writeString (s : String) : NoControls (writeString s) := by
  have hinside : NoControls (s.toList.flatMap escaped) := by
    intro d hd
    obtain ⟨c, -, hc⟩ := List.mem_flatMap.1 hd
    exact noControls_escaped c d hc
  exact .cons (by decide) (hinside.append (.cons (by decide) noControls_nil))

theorem noControls_toDigits (n : Nat) : NoControls (Nat.toDigits 10 n) := by
  intro c hc
  have hdigit := Char.isDigit_iff_toNat.1 (isDigit_of_mem_toDigits c hc)
  exact Nat.le_trans (by decide) hdigit.1

theorem noControls_writeInt (z : Int) : NoControls (writeInt z) := by
  cases z with
  | ofNat n => exact noControls_toDigits n
  | negSucc n => exact .cons (by decide) (noControls_toDigits (n + 1))

mutual

theorem noControls_write : ∀ v : Value, NoControls v.write
  | .null | .bool true | .bool false => by
      simp only [Value.write]
      decide
  | .int n => by
      rw [Value.write]
      exact noControls_writeInt n
  | .text s => by
      rw [Value.write]
      exact noControls_writeString s
  | .list items => by
      rw [Value.write]
      exact .cons (by decide) ((noControls_writeItems items).append (.cons (by decide) noControls_nil))
  | .object members => by
      rw [Value.write]
      exact .cons (by decide)
        ((noControls_writeMembers members).append (.cons (by decide) noControls_nil))

theorem noControls_writeItems : ∀ items : List Value, NoControls (writeItems items)
  | [] => noControls_nil
  | [v] => by
      rw [writeItems]
      exact noControls_write v
  | v :: w :: rest => by
      rw [writeItems]
      · exact (noControls_write v).append (.cons (by decide) (noControls_writeItems (w :: rest)))
      · exact List.cons_ne_nil w rest

theorem noControls_writeMembers : ∀ members : List (String × Value), NoControls (writeMembers members)
  | [] => noControls_nil
  | [(name, v)] => by
      rw [writeMembers]
      exact (noControls_writeString name).append (.cons (by decide) (noControls_write v))
  | (name, v) :: m :: rest => by
      rw [writeMembers]
      · exact ((noControls_writeString name).append (.cons (by decide) (noControls_write v))).append
          (.cons (by decide) (noControls_writeMembers (m :: rest)))
      · exact List.cons_ne_nil m rest

end

/-- A value starts with a character of its own, and only the word for nothing with that word's. -/
theorem exists_write_cons (v : Value) :
    ∃ c s, v.write = c :: s ∧ isSpace c = false ∧ c ≠ ']' ∧ c ≠ ',' ∧ (v ≠ .null → c ≠ 'n') := by
  cases v with
  | null => exact ⟨_, _, by rw [Value.write]; rfl, by decide, by decide, by decide, absurd rfl⟩
  | bool b =>
      cases b with
      | true => exact ⟨_, _, by rw [Value.write]; rfl, by decide, by decide, by decide, fun _ => by decide⟩
      | false => exact ⟨_, _, by rw [Value.write]; rfl, by decide, by decide, by decide, fun _ => by decide⟩
  | int z =>
      cases z with
      | ofNat n =>
          obtain ⟨d, ds, hds, hd⟩ := exists_toDigits_cons n
          refine ⟨d, ds, by rw [Value.write, writeInt, hds], isSpace_of_isDigit hd, ?_⟩
          refine ⟨?_, ?_, fun _ => ?_⟩ <;> rintro rfl <;> cases hd
      | negSucc n =>
          exact ⟨_, _, by rw [Value.write, writeInt], by decide, by decide, by decide, fun _ => by decide⟩
  | text s =>
      exact ⟨_, _, by rw [Value.write, writeString]; rfl, by decide, by decide, by decide, fun _ => by decide⟩
  | list items => exact ⟨_, _, by rw [Value.write]; rfl, by decide, by decide, by decide, fun _ => by decide⟩
  | object members =>
      exact ⟨_, _, by rw [Value.write]; rfl, by decide, by decide, by decide, fun _ => by decide⟩

end MeshRegistry.Json
