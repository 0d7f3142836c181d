import MeshRegistry.Proofs.Json.Records
import MeshRegistry.Proofs.Text.Cut

/-!
# Messages that are cut short

A record of strings and numbers is not read from a message of which the end is missing.  Only a number
may be taken from less than was written, and then it is all that was left, so the record still wants its
closing brace.
-/

namespace MeshRegistry.Json

open Text (CutShort cutShort_cons_iff)

variable {α β σ : Type} {αs : List Type}

theorem exists_of_map_eq_ok {ε : Type} {f : α → β} {x : Except ε α} {b : β}
    (h : x.map f = .ok b) : ∃ a, x = .ok a ∧ f a = b := by
  cases x with
  | error e => cases h
  | ok a => exact ⟨a, rfl, Except.ok.inj h⟩

/-- From a text that is cut short the decoder reads nothing, or all there is. -/
def Decoder.Wants (d : Decoder α) (s : List Char) : Prop :=
  ∀ p, CutShort p s → ∀ r, d p = .ok r → r.rest = []

theorem Decoder.Wants.of_error {d : Decoder α} {s : List Char}
    (h : ∀ p, CutShort p s → ∃ e, d p = .error e) : d.Wants s := by
  intro p hp r hr
  obtain ⟨e, he⟩ := h p hp
  rw [he] at hr
  cases hr

theorem Decoder.Wants.map {d : Decoder α} {s : List Char} (h : d.Wants s) (f : α → β) :
    (d.map f).Wants s := by
  intro p hp r hr
  obtain ⟨read, hread, rfl⟩ := exists_of_map_eq_ok hr
  exact h p hp read hread

/-! ## Strings -/

theorem readHex_short {s : List Char} (h : s.length < 4) : ∃ e, readHex s = .error e := by
  unfold readHex
  split
  · simp only [List.length_cons] at h
    omega
  · exact ⟨_, rfl⟩

theorem readEscape_short {s : List Char} (h : s.length < 4) : ∃ e, readEscape ('u' :: s) = .error e := by
  obtain ⟨e, he⟩ := readHex_short h
  refine ⟨e, ?_⟩
  simp only [readEscape, show simpleEscape? 'u' = none from rfl, if_true, readUnicode, he]
  rfl

theorem readChars_escape_error {before input : List Char} {e : Problem}
    (h : readEscape input = .error e) : readChars before ('\\' :: input) = .error e := by
  rw [readChars, if_neg (by decide), if_pos rfl, h]

theorem readChars_nil (before : List Char) : readChars before [] = .error .endOfString := by
  rw [readChars]

theorem readChars_escaped_short {p : List Char} {c : Char} (h : CutShort p (escaped c))
    (before : List Char) : ∃ e, readChars before p = .error e := by
  obtain ⟨letter, hwritten, -⟩ | ⟨hwritten, -⟩ | ⟨hwritten, -⟩ := escaped_cases c
  · rw [hwritten] at h
    obtain rfl | ⟨p, rfl, hp⟩ := cutShort_cons_iff.1 h
    · exact ⟨_, readChars_nil before⟩
    exact ⟨_, readChars_escape_error (by rw [hp.eq_nil, readEscape])⟩
  · rw [hwritten] at h
    obtain rfl | ⟨p, rfl, hp⟩ := cutShort_cons_iff.1 h
    · exact ⟨_, readChars_nil before⟩
    obtain rfl | ⟨digits, rfl, hdigits⟩ := cutShort_cons_iff.1 hp
    · exact ⟨_, readChars_escape_error (by rw [readEscape])⟩
    · obtain ⟨e, he⟩ := readEscape_short hdigits.length_lt
      exact ⟨e, readChars_escape_error he⟩
  · rw [hwritten] at h
    rw [h.eq_nil]
    exact ⟨_, readChars_nil before⟩

theorem readChars_short {s p : List Char} (h : CutShort p (s.flatMap escaped ++ ['"']))
    (before : List Char) : ∃ e, readChars before p = .error e := by
  induction s generalizing before p with
  | nil =>
      rw [h.eq_nil]
      exact ⟨_, readChars_nil before⟩
  | cons c s ih =>
      rw [List.flatMap_cons, List.append_assoc] at h
      obtain hc | ⟨p, rfl, hp⟩ := h.of_append
      · exact readChars_escaped_short hc before
      · rw [readChars_escaped]
        exact ih hp (c :: before)

theorem readString_short {s : String} {p : List Char}
    (h : CutShort p (s.toList.flatMap escaped ++ ['"'])) : ∃ e, readString p = .error e := by
  obtain ⟨e, he⟩ := readChars_short h []
  refine ⟨e, ?_⟩
  rw [readString]
  split
  · next hread => rw [he] at hread; cases hread; rfl
  · next hread => rw [he] at hread; cases hread

theorem writeString_eq (s : String) :
    writeString s = '"' :: (s.toList.flatMap escaped ++ ['"']) := rfl

/-- A string whose closing quote is missing is not read. -/
theorem text_wants (s : String) : text.Wants (Value.text s).write := by
  refine .of_error fun p hp => ?_
  rw [Value.write, writeString_eq] at hp
  obtain rfl | ⟨inside, rfl, hinside⟩ := cutShort_cons_iff.1 hp
  · exact ⟨_, rfl⟩
  · obtain ⟨e, he⟩ := readString_short hinside
    refine ⟨e, ?_⟩
    rw [text, skipSpace_cons (by decide)]
    simp only [Rest.all, if_true, he]
    rfl

/-! ## Numbers -/

theorem readNumeral_rest_eq_nil {isNegative : Bool} {input : List Char} {r : Read Numeral input}
    (hdigits : ∀ c ∈ input, c.isDigit = true) (h : readNumeral isNegative input = .ok r) :
    r.rest = [] := by
  cases input with
  | nil => cases h
  | cons c tail =>
      have htail : (skipDigits tail).1 = [] := by
        rw [skipDigits, List.dropWhile_eq_nil_iff]
        exact fun d hd => hdigits d (List.mem_cons_of_mem c hd)
      rw [readNumeral] at h
      dsimp only at h
      split at h
      · cases h
      split at h
      · cases h
      split at h
      · cases h
      · cases h
        exact htail
      · next real rest _ =>
        cases h
        have hle := rest.2
        have hnone := congrArg List.length htail
        rw [List.length_nil] at hnone
        have hleft : rest.1.length = 0 := by omega
        exact List.length_eq_zero_iff.1 hleft

/-- What is left behind a number is what is left behind its numeral. -/
theorem exists_readNumeral_of_number {expected : String} {accept : Numeral → Option α}
    {c : Char} {tail : List Char} {r : Read α (c :: tail)} (hspace : isSpace c = false)
    (h : number expected accept (c :: tail) = .ok r) :
    (c = '-' ∧ ∃ n, readNumeral true tail = .ok n ∧ n.rest = r.rest) ∨
      (c.isDigit = true ∧ ∃ n, readNumeral false (c :: tail) = .ok n ∧ n.rest = r.rest) := by
  rw [number, skipSpace_cons hspace] at h
  dsimp only [Rest.all] at h
  split at h
  · next hminus =>
    split at h
    · cases h
    · next n hn =>
      refine .inl ⟨hminus, n, hn, ?_⟩
      split at h <;> cases h
      rfl
  split at h
  · next hdigit =>
    split at h
    · cases h
    · next n hn =>
      refine .inr ⟨hdigit, n, hn, ?_⟩
      split at h <;> cases h
      rfl
  · cases h

/-- A number whose last digits are missing is another number, but nothing is left behind it. -/
theorem number_wants (expected : String) (accept : Numeral → Option α) (z : Int) :
    (number expected accept).Wants (Value.int z).write := by
  intro p hp r hr
  cases p with
  | nil => cases hr
  | cons c tail =>
      rw [Value.write] at hp
      cases z with
      | ofNat n =>
          have hdigits := hp.forall_mem isDigit_of_mem_toDigits
          have hspace := isSpace_of_isDigit (hdigits c List.mem_cons_self)
          obtain ⟨rfl, -⟩ | ⟨-, read, hread, hrest⟩ := exists_readNumeral_of_number hspace hr
          · exact absurd (hdigits '-' List.mem_cons_self) (by decide)
          · rw [← hrest]
            exact readNumeral_rest_eq_nil hdigits hread
      | negSucc n =>
          obtain hnil | ⟨digits, hcons, hcut⟩ := cutShort_cons_iff.1 hp
          · cases hnil
          cases hcons
          have hdigits := hcut.forall_mem isDigit_of_mem_toDigits
          obtain ⟨-, read, hread, hrest⟩ | ⟨hdigit, -⟩ :=
            exists_readNumeral_of_number (by decide) hr
          · rw [← hrest]
            exact readNumeral_rest_eq_nil hdigits hread
          · cases hdigit

/-! ## Optional values -/

theorem optional_wants {d : Decoder α} {v : Value} (hv : v ≠ .null) (h : d.Wants v.write) :
    (optional d).Wants v.write := by
  intro p hp r hr
  obtain ⟨c, s, hwrite, hspace, -, -, hc⟩ := exists_write_cons v
  have hd : (d p).map (Read.map some) = .ok r := by
    rw [hwrite] at hp
    obtain rfl | ⟨tail, rfl, -⟩ := cutShort_cons_iff.1 hp
    · exact hr
    rw [optional, skipSpace_cons hspace] at hr
    split at hr
    · next heq =>
      have hhead : c = 'n' := (List.cons.inj (congrArg Subtype.val heq)).1
      exact absurd hhead (hc hv)
    · exact hr
  obtain ⟨read, hread, rfl⟩ := exists_of_map_eq_ok hd
  exact h p hp read hread

/-! ## Members -/

/-- From a member that is cut short behind its name nothing is taken, or all there is. -/
def Member.Wants (member : Member σ) (s : σ) (m : String × Value) : Prop :=
  ∀ p, CutShort p (':' :: m.2.write) → ∀ t r, member s m.1 p = .ok (t, r) → r.1 = []

theorem decodeMember_wants {d : Decoder α} {s p : List Char} (h : d.Wants s)
    (hp : CutShort p (':' :: s)) {a : α} {r : Rest p} (hr : decodeMember d p = .ok (a, r)) :
    r.1 = [] := by
  obtain rfl | ⟨behind, rfl, hbehind⟩ := cutShort_cons_iff.1 hp
  · cases hr
  · rw [decodeMember, behindColon_colon] at hr
    obtain ⟨read, hread, heq⟩ := exists_of_map_eq_ok hr
    cases heq
    exact h behind hbehind read hread

theorem Delimited.of_append {s t : List Char} (h : Delimited (s ++ t)) : Delimited s := by
  cases s with
  | nil => exact delimited_nil
  | cons c s => exact h

/-- The name of a member is read, and then its value is not, or not what should follow it. -/
theorem members_error {member : Member σ} {isFirst : Bool} {s : σ} {name : String}
    {input behind : List Char}
    (hname : ∃ h, nextName isFirst input = .ok (some ⟨name, behind, h⟩))
    (hbehind : ∀ t rest h, member s name behind = .ok (t, ⟨rest, h⟩) →
      ∃ e, members member false t rest = .error e) :
    ∃ e, members member isFirst s input = .error e := by
  obtain ⟨hshorter, hname⟩ := hname
  rw [members]
  simp only [hname]
  cases hread : member s name behind with
  | error e => exact ⟨e, rfl⟩
  | ok read =>
      obtain ⟨t, rest, hle⟩ := read
      obtain ⟨e, he⟩ := hbehind t rest hle hread
      exact ⟨e, by simp only [he]; rfl⟩

theorem members_nil (member : Member σ) (isFirst : Bool) (s : σ) :
    ∃ e, members member isFirst s [] = .error e :=
  ⟨.endOfObject, by rw [members]; rfl⟩

/-- One member and what follows it, cut short in its name, in its value or behind it. -/
theorem members_cut_step (front : List Char) {member : Member σ} {isFirst : Bool} {s t : σ}
    {m : String × Value} {p : List Char} {ms : List (String × Value)}
    (hshort : ∀ p, CutShort p (writeString m.1) → ∃ e, nextName isFirst (front ++ p) = .error e)
    (hname : ∀ rest, ∃ h, nextName isFirst (front ++ (writeString m.1 ++ rest)) =
      .ok (some ⟨m.1, rest, h⟩))
    (htakes : member.Takes s m t) (hwants : member.Wants s m)
    (hothers : ∀ p, CutShort p (membersTail ms []) → ∃ e, members member false t p = .error e)
    (hp : CutShort p (writeMember m ++ membersTail ms [])) :
    ∃ e, members member isFirst s (front ++ p) = .error e := by
  rw [writeMember_append, ← List.cons_append] at hp
  obtain hinname | ⟨behind, rfl, hbehind⟩ := hp.of_append
  · obtain ⟨e, he⟩ := hshort p hinname
    exact ⟨e, by rw [members, he]⟩
  obtain hinvalue | ⟨others, rfl, hinothers⟩ := hbehind.of_append
  · refine members_error (hname behind) fun next rest _ hread => ?_
    -- If anything is taken for such a value, it is all there is, and the brace is missing.
    have hrest : rest = [] := hwants behind hinvalue _ _ hread
    rw [hrest]
    exact members_nil member false next
  · refine members_error (hname _) fun next rest _ hread => ?_
    have hdelimited : Delimited others := by
      obtain ⟨missing, -, happend⟩ := hinothers
      exact (happend ▸ delimited_membersTail ms []).of_append
    obtain ⟨hle, htaken⟩ := htakes others hdelimited
    cases htaken.symm.trans hread
    exact hothers others hinothers

theorem nextName_first_short {name : String} {p : List Char} (h : CutShort p (writeString name)) :
    ∃ e, nextName true p = .error e := by
  rw [writeString_eq] at h
  obtain rfl | ⟨inside, rfl, hinside⟩ := cutShort_cons_iff.1 h
  · exact ⟨_, rfl⟩
  · obtain ⟨e, he⟩ := readString_short hinside
    refine ⟨e, ?_⟩
    rw [nextName, skipSpace_cons (by decide)]
    simp [Rest.all, he, Except.map]

theorem nextName_later_short {name : String} {p : List Char} (h : CutShort p (writeString name)) :
    ∃ e, nextName false (',' :: p) = .error e := by
  rw [writeString_eq] at h
  rw [nextName, skipSpace_cons (by decide)]
  obtain rfl | ⟨inside, rfl, hinside⟩ := cutShort_cons_iff.1 h
  · exact ⟨_, rfl⟩
  · obtain ⟨e, he⟩ := readString_short hinside
    refine ⟨e, ?_⟩
    simp [Rest.all, skipSpace_cons (show isSpace '"' = false from rfl), he, Except.map]

theorem members_membersTail_short {member : Member σ} {s t : σ} {ms : List (String × Value)}
    (h : member.TakesAll s ms t) (hwants : ∀ m ∈ ms, ∀ s, member.Wants s m) {p : List Char}
    (hp : CutShort p (membersTail ms [])) : ∃ e, members member false s p = .error e := by
  induction h generalizing p with
  | nil =>
      rw [hp.eq_nil]
      exact members_nil _ _ _
  | @cons s t u m ms hm _ ih =>
      obtain ⟨hm', hms⟩ := List.forall_mem_cons.1 hwants
      rw [membersTail_cons] at hp
      obtain rfl | ⟨behind, rfl, hbehind⟩ := cutShort_cons_iff.1 hp
      · exact members_nil _ _ _
      · exact members_cut_step [','] (fun _ => nextName_later_short)
          (nextName_later m.1) hm (hm' s) (fun _ => ih hms) hbehind

/-- The members of an object are not read without its closing brace. -/
theorem members_writeMembers_short {member : Member σ} {s t : σ} {ms : List (String × Value)}
    (h : member.TakesAll s ms t) (hwants : ∀ m ∈ ms, ∀ s, member.Wants s m) {p : List Char}
    (hp : CutShort p (writeMembers ms ++ ['\x7d'])) : ∃ e, members member true s p = .error e := by
  cases h with
  | nil =>
      rw [hp.eq_nil]
      exact members_nil _ _ _
  | @cons _ t _ m ms hm hms =>
      obtain ⟨hm', hms'⟩ := List.forall_mem_cons.1 hwants
      rw [writeMembers_cons] at hp
      exact members_cut_step [] (fun _ => nextName_first_short) (nextName_first m.1) hm
        (hm' s) (fun _ => members_membersTail_short hms hms') hp

namespace Fields

/-- The field of the member's name wants all of its value. -/
def Wants : {αs : List Type} → Fields αs → String × Value → Prop
  | _, .nil, _ => False
  | _, .cons name decode _ rest, m =>
    if m.1 = name then decode.Wants m.2.write else rest.Wants m

theorem Wants.member {fields : Fields αs} {m : String × Value} (h : fields.Wants m)
    (slots : Slots αs) : Member.Wants fields.member slots m := by
  induction fields with
  | nil => exact h.elim
  | cons name decode absence rest ih =>
      obtain ⟨slot, slots⟩ := slots
      intro p hp t r hr
      rw [Wants] at h
      by_cases hname : m.1 = name
      · rw [if_pos hname] at h
        unfold Fields.member at hr
        rw [fill?, if_pos hname] at hr
        cases slot with
        | some a => cases hr
        | none =>
            obtain ⟨read, hread, heq⟩ := exists_of_map_eq_ok hr
            cases heq
            exact decodeMember_wants h hp hread
      · rw [if_neg hname] at h
        rw [member_cons_of_ne hname] at hr
        obtain ⟨read, hread, heq⟩ := exists_of_map_eq_ok hr
        cases heq
        exact ih h slots p hp _ _ hread

end Fields

/-! ## Records -/

/-- A record is not read from an object that is cut short. -/
theorem record_short {fields : Fields αs} {ms : List (String × Value)} {as : Values αs}
    (hnames : fields.names.Nodup) (h : fields.Spelled ms as) (hwants : ∀ m ∈ ms, fields.Wants m)
    (name : String) (build : Values αs → α) {p : List Char}
    (hp : CutShort p (Value.object ms).write) :
    ∃ e, record name (some fields) build p = .error e := by
  have hwrite : (Value.object ms).write = '\x7b' :: (writeMembers ms ++ ['\x7d']) := by
    rw [Value.write, List.cons_append]
  rw [hwrite] at hp
  obtain rfl | ⟨inside, rfl, hinside⟩ := cutShort_cons_iff.1 hp
  · exact ⟨_, rfl⟩
  obtain ⟨slots, htaken, -⟩ := h.takesAll hnames
  obtain ⟨e, he⟩ := members_writeMembers_short htaken (fun m hm => (hwants m hm).member) hinside
  refine ⟨e, ?_⟩
  rw [record, skipSpace_cons (by decide)]
  simp only [Rest.all, if_true, he]
  rfl

theorem decodeAll_error {d : Decoder α} {p : List Char} (h : ∃ e, d p = .error e) :
    ∃ e, decodeAll d p = .error e := by
  obtain ⟨e, he⟩ := h
  exact ⟨e, by rw [decodeAll, he]⟩

end MeshRegistry.Json
