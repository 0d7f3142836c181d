import MeshRegistry.Proofs.Json.Written

/-!
# Reading back what was written: records

Members are read back one after another, and a record is read back from the members of an object that
spell its fields in the order of declaration.  A field may be left out where its absence says so.
-/

namespace MeshRegistry.Json

variable {σ α : Type} {αs : List Type}

/-! ## Members -/

/-- A member as it is written. -/
def writeMember (m : String × Value) : List Char :=
  writeString m.1 ++ ':' :: m.2.write

/-- What follows a member: further ones, each behind a comma, and the closing brace. -/
def membersTail (ms : List (String × Value)) (rest : List Char) : List Char :=
  ms.flatMap (fun m => ',' :: writeMember m) ++ '\x7d' :: rest

theorem membersTail_cons (m : String × Value) (ms : List (String × Value)) (rest : List Char) :
    membersTail (m :: ms) rest = ',' :: (writeMember m ++ membersTail ms rest) := by
  simp [membersTail]

theorem writeMembers_cons (m : String × Value) (ms : List (String × Value)) (rest : List Char) :
    writeMembers (m :: ms) ++ '\x7d' :: rest = writeMember m ++ membersTail ms rest := by
  induction ms generalizing m with
  | nil => rw [writeMembers, membersTail, writeMember, List.flatMap_nil, List.nil_append]
  | cons next ms ih =>
      rw [membersTail_cons, ← ih, writeMembers, writeMember]
      · simp
      · exact List.cons_ne_nil next ms

theorem delimited_membersTail (ms : List (String × Value)) (rest : List Char) :
    Delimited (membersTail ms rest) := by
  cases ms with
  | nil => exact delimited_brace rest
  | cons m ms =>
      rw [membersTail_cons]
      exact delimited_comma _

theorem nextName_brace (isFirst : Bool) (rest : List Char) :
    nextName isFirst ('\x7d' :: rest) = .ok none := by
  rw [nextName, skipSpace_cons (by decide)]
  rfl

theorem nextName_first (name : String) (rest : List Char) :
    ∃ h, nextName true (writeString name ++ rest) = .ok (some ⟨name, rest, h⟩) := by
  obtain ⟨h, hread⟩ := readString_flatMap_escaped name rest
  rw [writeString_append]
  refine ⟨Nat.lt_succ_of_lt h, ?_⟩
  rw [nextName, skipSpace_cons (by decide)]
  simp [Rest.all, hread, Except.map, Read.within]

theorem nextName_later (name : String) (rest : List Char) :
    ∃ h, nextName false (',' :: (writeString name ++ rest)) = .ok (some ⟨name, rest, h⟩) := by
  obtain ⟨h, hread⟩ := readString_flatMap_escaped name rest
  rw [writeString_append]
  refine ⟨Nat.lt_succ_of_lt (Nat.lt_succ_of_lt h), ?_⟩
  rw [nextName, skipSpace_cons (by decide)]
  simp [Rest.all, skipSpace_cons (show isSpace '"' = false from rfl), hread, Except.map, Read.within]

theorem closeObject_brace (rest : List Char) :
    ∃ h, closeObject ('\x7d' :: rest) = .ok ⟨(), rest, h⟩ := by
  refine ⟨Nat.lt_succ_self _, ?_⟩
  rw [closeObject, skipSpace_cons (by decide)]
  rfl

/-- What is done with the value of each name. -/
abbrev Member (σ : Type) := σ → String → (input : List Char) → Except Problem (σ × Rest input)

/-- A value behind its colon is taken, and what has been gathered goes from `s` to `t`. -/
def Member.Takes (member : Member σ) (s : σ) (m : String × Value) (t : σ) : Prop :=
  ∀ rest, Delimited rest →
    ∃ h, member s m.1 (':' :: (m.2.write ++ rest)) = .ok (t, ⟨rest, h⟩)

/-- Members taken one after another. -/
inductive Member.TakesAll (member : Member σ) : σ → List (String × Value) → σ → Prop where
  | nil {s : σ} : TakesAll member s [] s
  | cons {s t u : σ} {m : String × Value} {ms : List (String × Value)} :
      member.Takes s m t → TakesAll member t ms u → TakesAll member s (m :: ms) u

theorem writeMember_append (m : String × Value) (rest : List Char) :
    writeMember m ++ rest = writeString m.1 ++ ':' :: (m.2.write ++ rest) := by
  rw [writeMember, List.append_assoc, List.cons_append]

/-- One member is read and the others follow. -/
theorem members_step {member : Member σ} {isFirst : Bool} {s t u : σ} {name : String}
    {input after behind rest : List Char}
    (hname : ∃ h, nextName isFirst input = .ok (some ⟨name, after, h⟩))
    (hvalue : ∃ h, member s name after = .ok (t, ⟨behind, h⟩))
    (hothers : ∃ h, members member false t behind = .ok ⟨u, rest, h⟩) :
    ∃ h, members member isFirst s input = .ok ⟨u, rest, h⟩ := by
  obtain ⟨hafter, hname⟩ := hname
  obtain ⟨hbehind, hvalue⟩ := hvalue
  obtain ⟨hrest, hothers⟩ := hothers
  refine ⟨Nat.lt_trans (Nat.lt_of_lt_of_le hrest hbehind) hafter, ?_⟩
  rw [members]
  simp only [hname, hvalue, hothers]
  rfl

theorem members_brace (member : Member σ) (isFirst : Bool) (s : σ) (rest : List Char) :
    ∃ h, members member isFirst s ('\x7d' :: rest) = .ok ⟨s, rest, h⟩ := by
  obtain ⟨h, hclose⟩ := closeObject_brace rest
  refine ⟨h, ?_⟩
  rw [members]
  simp only [nextName_brace, hclose]
  rfl

theorem members_membersTail {member : Member σ} {s t : σ} {ms : List (String × Value)}
    (h : member.TakesAll s ms t) (rest : List Char) :
    ∃ h, members member false s (membersTail ms rest) = .ok ⟨t, rest, h⟩ := by
  induction h with
  | nil => exact members_brace member false _ rest
  | @cons s t u m ms hm _ ih =>
      rw [membersTail_cons, writeMember_append]
      exact members_step (nextName_later _ _) (hm _ (delimited_membersTail ms rest)) ih

/-- The members of an object are taken one after another. -/
theorem members_writeMembers {member : Member σ} {s t : σ} {ms : List (String × Value)}
    (h : member.TakesAll s ms t) (rest : List Char) :
    ∃ h, members member true s (writeMembers ms ++ '\x7d' :: rest) = .ok ⟨t, rest, h⟩ := by
  cases h with
  | nil => exact members_brace member true _ rest
  | @cons _ _ _ m ms hm hms =>
      rw [writeMembers_cons, writeMember_append]
      exact members_step (nextName_first _ _) (hm _ (delimited_membersTail ms rest))
        (members_membersTail hms rest)

/-! ## Fields -/

/-- A value that is there is read back as one that might not be. -/
theorem optional_takes {d : Decoder α} {v : Value} {a : α} (hv : v ≠ .null)
    (h : d.Takes v.write a) : (optional d).Takes v.write (some a) := by
  intro rest hrest
  obtain ⟨hshorter, hd⟩ := h rest hrest
  obtain ⟨c, s, hwrite, hspace, -, -, hc⟩ := exists_write_cons v
  refine ⟨hshorter, ?_⟩
  have hskip : skipSpace (v.write ++ rest) = .all (v.write ++ rest) := by
    rw [hwrite]
    exact skipSpace_cons hspace (s ++ rest)
  have hhead : ∀ more h, Rest.all (v.write ++ rest) ≠ ⟨'n' :: more, h⟩ := by
    intro more h heq
    have hlists : c :: (s ++ rest) = 'n' :: more := by
      rw [← List.cons_append, ← hwrite]
      exact congrArg Subtype.val heq
    exact hc hv (List.cons.inj hlists).1
  rw [optional]
  split
  · next heq => exact absurd (hskip.symm.trans heq) (hhead _ _)
  · rw [hd]
    rfl

theorem behindColon_colon (rest : List Char) :
    behindColon (':' :: rest) = .ok ⟨rest, Nat.le_succ _⟩ := by
  rw [behindColon, skipSpace_cons (by decide)]
  rfl

theorem decodeMember_takes {d : Decoder α} {s : List Char} {a : α} (h : d.Takes s a)
    {rest : List Char} (hrest : Delimited rest) :
    ∃ h, decodeMember d (':' :: (s ++ rest)) = .ok (a, ⟨rest, h⟩) := by
  obtain ⟨hshorter, hd⟩ := h rest hrest
  refine ⟨Nat.le_of_lt (Nat.lt_succ_of_lt hshorter), ?_⟩
  rw [decodeMember, behindColon_colon]
  simp only [hd]
  rfl

namespace Fields

/-- The names of the fields. -/
def names : {αs : List Type} → Fields αs → List String
  | _, .nil => []
  | _, .cons name _ _ rest => name :: rest.names

/-- The members spell the values of the fields, in the order of declaration.  A field that is left
out has the value that its absence gives it. -/
inductive Spelled : {αs : List Type} → Fields αs → List (String × Value) → Values αs → Prop where
  | nil : Spelled .nil [] ()
  | present {α : Type} {αs : List Type} {name : String} {decode : Decoder α} {absence : Absence α}
      {rest : Fields αs} {v : Value} {a : α} {ms : List (String × Value)} {as : Values αs} :
      decode.Takes v.write a → Spelled rest ms as →
        Spelled (.cons name decode absence rest) ((name, v) :: ms) (a, as)
  | absent {α : Type} {αs : List Type} {name : String} {decode : Decoder α} {absence : Absence α}
      {rest : Fields αs} {a : α} {ms : List (String × Value)} {as : Values αs} :
      absence.inObject? = some a → Spelled rest ms as →
        Spelled (.cons name decode absence rest) ms (a, as)

theorem Spelled.name_mem {fields : Fields αs} {ms : List (String × Value)} {as : Values αs}
    (h : fields.Spelled ms as) : ∀ m ∈ ms, m.1 ∈ fields.names := by
  induction h with
  | nil => simp
  | present _ _ ih =>
      intro m hm
      rw [names, List.mem_cons]
      obtain rfl | hm := List.mem_cons.1 hm
      · exact .inl rfl
      · exact .inr (ih m hm)
  | absent _ _ ih =>
      intro m hm
      exact List.mem_cons_of_mem _ (ih m hm)

theorem member_cons_self {name : String} {decode : Decoder α} {absence : Absence α}
    {rest : Fields αs} {v : Value} {a : α} (h : decode.Takes v.write a) (slots : Slots αs) :
    Member.Takes (Fields.cons name decode absence rest).member (none, slots) (name, v)
      (some a, slots) := by
  intro behind hbehind
  obtain ⟨hle, hdecode⟩ := decodeMember_takes h hbehind
  refine ⟨hle, ?_⟩
  unfold member
  rw [fill?, if_pos rfl]
  simp only [Option.isSome_none, Bool.false_eq_true, if_false, hdecode]
  rfl

/-- The value of another name goes to the other fields. -/
theorem member_cons_of_ne {name key : String} (h : key ≠ name) (decode : Decoder α)
    (absence : Absence α) (rest : Fields αs) (slot : Option α) (slots : Slots αs)
    (input : List Char) :
    (Fields.cons name decode absence rest).member (slot, slots) key input =
      (rest.member slots key input).map fun (filled, r) => ((slot, filled), r) := by
  unfold member
  rw [fill?, if_neg h]
  cases rest.fill? slots key with
  | none => cases skipMember input <;> rfl
  | some f => rfl

theorem takesAll_cons_of_ne {name : String} {rest : Fields αs} {s t : Slots αs}
    {ms : List (String × Value)} (hms : ∀ m ∈ ms, m.1 ≠ name) (h : Member.TakesAll rest.member s ms t)
    (decode : Decoder α) (absence : Absence α) (slot : Option α) :
    Member.TakesAll (Fields.cons name decode absence rest).member (slot, s) ms (slot, t) := by
  induction h with
  | nil => exact .nil
  | @cons s t u m ms hm _ ih =>
      refine .cons ?_ (ih fun m' hm' => hms m' (List.mem_cons_of_mem m hm'))
      intro behind hbehind
      obtain ⟨hle, hmember⟩ := hm behind hbehind
      refine ⟨hle, ?_⟩
      rw [member_cons_of_ne (hms m List.mem_cons_self), hmember]
      rfl

/-- Members that spell the values fill the fields with them. -/
theorem Spelled.takesAll {fields : Fields αs} {ms : List (String × Value)} {as : Values αs}
    (h : fields.Spelled ms as) (hnames : fields.names.Nodup) :
    ∃ slots, Member.TakesAll fields.member fields.empty ms slots ∧ fields.complete slots = .ok as := by
  induction h with
  | nil => exact ⟨(), .nil, rfl⟩
  | @present _ _ name decode absence rest v a ms as ha hms ih =>
      obtain ⟨hname, hrest⟩ := List.nodup_cons.1 hnames
      obtain ⟨slots, htaken, hcomplete⟩ := ih hrest
      have hne : ∀ m ∈ ms, m.1 ≠ name := fun m hm hsame => hname (hsame ▸ hms.name_mem m hm)
      refine ⟨(some a, slots), ?_, ?_⟩
      · exact .cons (member_cons_self ha _) (takesAll_cons_of_ne hne htaken _ _ _)
      · rw [complete, Option.some_or, hcomplete]
        rfl
  | @absent _ _ name decode absence rest a ms as ha hms ih =>
      obtain ⟨hname, hrest⟩ := List.nodup_cons.1 hnames
      obtain ⟨slots, htaken, hcomplete⟩ := ih hrest
      have hne : ∀ m ∈ ms, m.1 ≠ name := fun m hm hsame => hname (hsame ▸ hms.name_mem m hm)
      refine ⟨(none, slots), takesAll_cons_of_ne hne htaken _ _ _, ?_⟩
      rw [complete, Option.none_or, ha, hcomplete]
      rfl

end Fields

theorem record_takes_of_takesAll {fields : Fields αs} {ms : List (String × Value)}
    {slots : Slots αs} {as : Values αs}
    (htaken : Member.TakesAll fields.member fields.empty ms slots)
    (hcomplete : fields.complete slots = .ok as) (name : String) (build : Values αs → α) :
    (record name (some fields) build).Takes (Value.object ms).write (build as) := by
  intro rest _
  obtain ⟨hshorter, hmembers⟩ := members_writeMembers htaken rest
  have hwrite : (Value.object ms).write ++ rest = '\x7b' :: (writeMembers ms ++ '\x7d' :: rest) := by
    rw [Value.write, List.append_assoc, List.cons_append, List.singleton_append]
  rw [hwrite]
  refine ⟨Nat.lt_succ_of_lt hshorter, ?_⟩
  rw [record, skipSpace_cons (by decide)]
  simp only [Rest.all, if_true, hmembers, hcomplete]
  rfl

/-- A record is read back from an object whose members spell its fields. -/
theorem record_takes {fields : Fields αs} {ms : List (String × Value)} {as : Values αs}
    (hnames : fields.names.Nodup) (h : fields.Spelled ms as) (name : String) (build : Values αs → α) :
    (record name (some fields) build).Takes (Value.object ms).write (build as) := by
  obtain ⟨slots, htaken, hcomplete⟩ := h.takesAll hnames
  exact record_takes_of_takesAll htaken hcomplete name build

end MeshRegistry.Json
