import MeshRegistry.Proofs.Json.Records

/-!
# Members that nobody asked for

A string that was written is passed over up to its closing quote, so a record is read from an object
that says more than the record has fields for.
-/

namespace MeshRegistry.Json

variable {α : Type} {αs : List Type}

/-! ## Strings -/

theorem skipEscape_simple {c e : Char} (h : simpleEscape? c = some e) (rest : List Char) :
    skipEscape (c :: rest) = .ok (.tail c rest) := by
  rw [skipEscape, h]
  rfl

theorem skipEscape_control {n : Nat} (hn : n < 0x20) (rest : List Char) :
    ∃ h, skipEscape ('u' :: '0' :: '0' :: hexDigit (n / 16) :: hexDigit (n % 16) :: rest) =
      .ok ⟨rest, h⟩ := by
  refine ⟨by simp only [List.length_cons]; omega, ?_⟩
  simp only [skipEscape, show simpleEscape? 'u' = none from rfl, if_true, readHex,
    hexDigits?_control hn]
  rfl

theorem afterString_escape {input rest : List Char} {h : rest.length ≤ input.length}
    (hescape : skipEscape input = .ok ⟨rest, h⟩) :
    afterString ('\\' :: input) = afterString rest := by
  rw [afterString, if_neg (by decide), if_pos rfl, hescape]

theorem afterString_escaped (c : Char) (rest : List Char) :
    afterString (escaped c ++ rest) = afterString rest := by
  obtain ⟨e, hwritten, he⟩ | ⟨hwritten, hc⟩ | ⟨hwritten, hquote, hslash, hc⟩ := escaped_cases c
  · rw [hwritten]
    exact afterString_escape (skipEscape_simple he rest)
  · rw [hwritten]
    obtain ⟨h, hskip⟩ := skipEscape_control hc rest
    exact afterString_escape hskip
  · rw [hwritten, List.singleton_append, afterString, if_neg hquote, if_neg hslash, if_neg hc]

theorem afterString_flatMap_escaped (s rest : List Char) :
    afterString (s.flatMap escaped ++ '"' :: rest) = .ok rest := by
  induction s with
  | nil => rw [List.flatMap_nil, List.nil_append, afterString, if_pos rfl]
  | cons c s ih => rw [List.flatMap_cons, List.append_assoc, afterString_escaped, ih]

theorem skipString_flatMap_escaped (s rest : List Char) :
    ∃ h, skipString (s.flatMap escaped ++ '"' :: rest) = .ok ⟨rest, h⟩ := by
  have hafter := afterString_flatMap_escaped s rest
  refine ⟨Nat.le_of_lt (afterString_shorter hafter), ?_⟩
  rw [skipString]
  split
  next hs => rw [hafter] at hs; cases hs
  next hs =>
    rw [hafter] at hs
    cases hs
    rfl

/-! ## Members -/

theorem afterValue_writeString (s : String) (rest : List Char) :
    afterValue true [] (writeString s ++ rest) = .ok rest := by
  obtain ⟨h, hskip⟩ := skipString_flatMap_escaped s.toList rest
  have hquote : Frame.opened? '"' = none := rfl
  have hscalar : skipScalar '"' (s.toList.flatMap escaped ++ '"' :: rest) = .ok ⟨rest, h⟩ := hskip
  rw [writeString_append, afterValue.eq_def, skipSpace_cons (by decide)]
  simp only [Rest.all, hquote, hscalar]
  rw [afterValue]

theorem skipMember_writeString (s : String) (rest : List Char) :
    ∃ h, skipMember (':' :: (writeString s ++ rest)) = .ok ⟨rest, h⟩ := by
  have hafter := afterValue_writeString s rest
  have hskip : skipValue (writeString s ++ rest) = .ok ⟨rest, afterValue_le hafter⟩ := by
    rw [skipValue]
    split
    next hs => rw [hafter] at hs; cases hs
    next hs =>
      rw [hafter] at hs
      cases hs
      rfl
  refine ⟨Nat.le_succ_of_le (afterValue_le hafter), ?_⟩
  rw [skipMember, behindColon_colon]
  simp only [hskip]
  rfl

namespace Fields

theorem fill?_of_not_mem {fields : Fields αs} {key : String} (h : key ∉ fields.names)
    (slots : Slots αs) : fields.fill? slots key = none := by
  induction fields with
  | nil => rfl
  | cons name decode absence rest ih =>
      rw [names, List.mem_cons, not_or] at h
      obtain ⟨slot, slots⟩ := slots
      rw [fill?, if_neg h.1, ih h.2, Option.map_none]

/-- The string of a name that is no field changes nothing. -/
theorem member_takes_of_not_mem {fields : Fields αs} {key : String} (h : key ∉ fields.names)
    (s : String) (slots : Slots αs) : Member.Takes fields.member slots (key, .text s) slots := by
  intro rest _
  obtain ⟨hle, hskip⟩ := skipMember_writeString s rest
  refine ⟨hle, ?_⟩
  rw [member, fill?_of_not_mem h]
  simp only [Value.write, hskip]
  rfl

end Fields

/-- A record is read from an object with a string in front of the members that spell its fields. -/
theorem record_takes_behind_text {fields : Fields αs} {ms : List (String × Value)} {as : Values αs}
    (hnames : fields.names.Nodup) (h : fields.Spelled ms as) {key : String}
    (hkey : key ∉ fields.names) (s : String) (name : String) (build : Values αs → α) :
    (record name (some fields) build).Takes (Value.object ((key, .text s) :: ms)).write
      (build as) := by
  obtain ⟨slots, htaken, hcomplete⟩ := h.takesAll hnames
  exact record_takes_of_takesAll (.cons (Fields.member_takes_of_not_mem hkey s _) htaken) hcomplete
    name build

end MeshRegistry.Json
