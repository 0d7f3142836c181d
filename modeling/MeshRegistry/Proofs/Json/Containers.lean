import Mathlib.Data.List.Forall2
import MeshRegistry.Proofs.Json.Records

/-!
# Reading back what was written: lists and maps

Lists and maps of values are read back, and so is everything that is made of such containers, as long
as no more of them stand inside one another than may be opened.
-/

namespace MeshRegistry.Json

variable {α β : Type} {αs : List Type}

/-! ## Depth -/

mutual

/-- How many containers stand inside one another. -/
def Value.nesting : Value → Nat
  | .list items => nestingItems items + 1
  | .object members => nestingMembers members + 1
  | .null | .bool _ | .int _ | .text _ => 0

def nestingItems : List Value → Nat
  | [] => 0
  | v :: rest => max v.nesting (nestingItems rest)

def nestingMembers : List (String × Value) → Nat
  | [] => 0
  | (_, v) :: rest => max v.nesting (nestingMembers rest)

end

theorem nestingItems_le_iff {items : List Value} {n : Nat} :
    nestingItems items ≤ n ↔ ∀ v ∈ items, v.nesting ≤ n := by
  induction items with
  | nil => simp [nestingItems]
  | cons v rest ih => rw [nestingItems, Nat.max_le, ih, List.forall_mem_cons]

theorem nestingMembers_le_iff {members : List (String × Value)} {n : Nat} :
    nestingMembers members ≤ n ↔ ∀ m ∈ members, m.2.nesting ≤ n := by
  induction members with
  | nil => simp [nestingMembers]
  | cons m rest ih => rw [nestingMembers, Nat.max_le, ih, List.forall_mem_cons]

theorem nesting_list_le_iff {items : List Value} {left : Nat} :
    (Value.list items).nesting ≤ left ↔ ∃ n, left = n + 1 ∧ ∀ v ∈ items, v.nesting ≤ n := by
  cases left with
  | zero => simp [Value.nesting]
  | succ n => simp [Value.nesting, nestingItems_le_iff]

theorem nesting_object_le_iff {members : List (String × Value)} {left : Nat} :
    (Value.object members).nesting ≤ left ↔ ∃ n, left = n + 1 ∧ ∀ m ∈ members, m.2.nesting ≤ n := by
  cases left with
  | zero => simp [Value.nesting]
  | succ n => simp [Value.nesting, nestingMembers_le_iff]

/-- Every value is read back from its message, provided that no more than `left` containers stand
inside one another there. -/
def Decoder.ReadsBack (d : Decoder α) (left : Nat) (toJson : α → Value) : Prop :=
  ∀ a, (toJson a).nesting ≤ left → d.Takes (toJson a).write a

/-- Every value is read back as long as enough containers may be opened. -/
abbrev ReadsBack (decoder : Nat → Decoder α) (toJson : α → Value) : Prop :=
  ∀ left, (decoder left).ReadsBack left toJson

theorem readsBack_text : ReadsBack (fun _ => text) .text :=
  fun _ s _ => text_takes s

/-! ## Lists -/

theorem delimited_bracket (rest : List Char) : Delimited (']' :: rest) := by
  intro c hc
  cases hc
  exact .inr (.inl rfl)

/-- What follows an item: further ones, each behind a comma, and the closing bracket. -/
def itemsTail (vs : List Value) (rest : List Char) : List Char :=
  vs.flatMap (fun v => ',' :: v.write) ++ ']' :: rest

theorem itemsTail_cons (v : Value) (vs : List Value) (rest : List Char) :
    itemsTail (v :: vs) rest = ',' :: (v.write ++ itemsTail vs rest) := by
  simp [itemsTail]

theorem writeItems_cons (v : Value) (vs : List Value) (rest : List Char) :
    writeItems (v :: vs) ++ ']' :: rest = v.write ++ itemsTail vs rest := by
  induction vs generalizing v with
  | nil => rw [writeItems, itemsTail, List.flatMap_nil, List.nil_append]
  | cons next vs ih =>
      rw [itemsTail_cons, ← ih, writeItems]
      · rw [List.append_assoc, List.cons_append]
      · exact List.cons_ne_nil next vs

theorem delimited_itemsTail (vs : List Value) (rest : List Char) : Delimited (itemsTail vs rest) := by
  cases vs with
  | nil => exact delimited_bracket rest
  | cons v vs =>
      rw [itemsTail_cons]
      exact delimited_comma _

theorem nextItem_bracket (isFirst : Bool) (rest : List Char) :
    nextItem isFirst (']' :: rest) = .ok none := by
  rw [nextItem, skipSpace_cons (by decide)]
  rfl

theorem nextItem_first (v : Value) (rest : List Char) :
    ∃ h, nextItem true (v.write ++ rest) = .ok (some ⟨v.write ++ rest, h⟩) := by
  obtain ⟨c, s, hwrite, hspace, hbracket, -, -⟩ := exists_write_cons v
  rw [hwrite, List.cons_append]
  refine ⟨Nat.le_refl _, ?_⟩
  rw [nextItem, skipSpace_cons hspace]
  simp [Rest.all, hbracket]

theorem nextItem_later (v : Value) (rest : List Char) :
    ∃ h, nextItem false (',' :: (v.write ++ rest)) = .ok (some ⟨v.write ++ rest, h⟩) := by
  obtain ⟨c, s, hwrite, hspace, hbracket, -, -⟩ := exists_write_cons v
  rw [hwrite, List.cons_append]
  refine ⟨Nat.le_succ _, ?_⟩
  rw [nextItem, skipSpace_cons (by decide)]
  simp [Rest.all, skipSpace_cons hspace, hbracket]

theorem closeList_bracket (rest : List Char) :
    ∃ h, closeList (']' :: rest) = .ok ⟨(), rest, h⟩ := by
  refine ⟨Nat.lt_succ_self _, ?_⟩
  rw [closeList, skipSpace_cons (by decide)]
  rfl

/-- One item is read and the others follow. -/
theorem items_step {d : Decoder α} {isFirst : Bool} {before as : List α} {a : α}
    {input place behind rest : List Char}
    (hplace : ∃ h, nextItem isFirst input = .ok (some ⟨place, h⟩))
    (hitem : ∃ h, d place = .ok ⟨a, behind, h⟩)
    (hothers : ∃ h, items d false (a :: before) behind = .ok ⟨as, rest, h⟩) :
    ∃ h, items d isFirst before input = .ok ⟨as, rest, h⟩ := by
  obtain ⟨hle, hplace⟩ := hplace
  obtain ⟨hbehind, hitem⟩ := hitem
  obtain ⟨hrest, hothers⟩ := hothers
  refine ⟨Nat.lt_trans hrest (Nat.lt_of_lt_of_le hbehind hle), ?_⟩
  rw [items]
  simp only [hplace, hitem, hothers]
  rfl

theorem items_bracket (d : Decoder α) (isFirst : Bool) (before : List α) (rest : List Char) :
    ∃ h, items d isFirst before (']' :: rest) = .ok ⟨before.reverse, rest, h⟩ := by
  obtain ⟨h, hclose⟩ := closeList_bracket rest
  refine ⟨h, ?_⟩
  rw [items]
  simp only [nextItem_bracket, hclose]
  rfl

theorem items_itemsTail {d : Decoder α} {as : List α} {vs : List Value}
    (has : List.Forall₂ (fun a v => d.Takes v.write a) as vs) (before : List α) (rest : List Char) :
    ∃ h, items d false before (itemsTail vs rest) = .ok ⟨before.reverse ++ as, rest, h⟩ := by
  induction has generalizing before with
  | nil =>
      rw [List.append_nil]
      exact items_bracket d false before rest
  | @cons a v as vs ha _ ih =>
      have hothers := ih (a :: before)
      rw [List.reverse_cons, List.append_assoc, List.singleton_append] at hothers
      rw [itemsTail_cons]
      exact items_step (nextItem_later _ _) (ha _ (delimited_itemsTail _ rest)) hothers

/-- A list is read back if each of its items is, however they are written. -/
theorem list_takes_of_forall₂ {d : Decoder α} {as : List α} {vs : List Value}
    (has : List.Forall₂ (fun a v => d.Takes v.write a) as vs) :
    (list (some d)).Takes (Value.list vs).write as := by
  intro rest _
  have hitems : ∃ h, items d true [] (writeItems vs ++ ']' :: rest) = .ok ⟨as, rest, h⟩ := by
    cases has with
    | nil => exact items_bracket d true [] rest
    | @cons a v as vs ha has =>
        rw [writeItems_cons]
        exact items_step (nextItem_first _ _) (ha _ (delimited_itemsTail _ rest))
          (items_itemsTail has [a] rest)
  obtain ⟨hshorter, hitems⟩ := hitems
  have hwrite : (Value.list vs).write ++ rest = '[' :: (writeItems vs ++ ']' :: rest) := by
    rw [Value.write, List.append_assoc, List.cons_append, List.singleton_append]
  rw [hwrite]
  refine ⟨Nat.lt_succ_of_lt hshorter, ?_⟩
  rw [list, skipSpace_cons (by decide)]
  simp only [Rest.all, if_true, hitems]
  rfl

theorem list_takes {d : Decoder α} {toJson : α → Value} {as : List α}
    (has : ∀ a ∈ as, d.Takes (toJson a).write a) :
    (list (some d)).Takes (Value.list (as.map toJson)).write as :=
  list_takes_of_forall₂ (List.forall₂_map_right_iff.2 (List.forall₂_same.2 has))

theorem ReadsBack.list {decoder : Nat → Decoder α} {toJson : α → Value}
    (h : ReadsBack decoder toJson) :
    ReadsBack (fun left => Json.list (within left decoder)) (fun as => .list (as.map toJson)) := by
  intro left as hleft
  obtain ⟨n, rfl, hitems⟩ := nesting_list_le_iff.1 hleft
  exact list_takes fun a ha => h n a (hitems _ (List.mem_map_of_mem ha))

/-! ## Maps -/

theorem takesAll_entry {d : Decoder α} {toJson : α → Value} {entries : List (String × α)}
    (hentries : ∀ e ∈ entries, d.Takes (toJson e.2).write e.2) (soFar : Std.ExtTreeMap String α) :
    Member.TakesAll (fun soFar name input =>
        (decodeMember d input).map fun (v, r) => (soFar.insert name v, r))
      soFar (entries.map fun e => (e.1, toJson e.2)) (soFar.insertMany entries) := by
  induction entries generalizing soFar with
  | nil => exact .nil
  | cons e entries ih =>
      obtain ⟨name, a⟩ := e
      obtain ⟨ha, hentries⟩ := List.forall_mem_cons.1 hentries
      rw [Std.ExtTreeMap.insertMany_cons]
      refine .cons ?_ (ih hentries (soFar.insert name a))
      intro rest hrest
      obtain ⟨hle, hdecode⟩ := decodeMember_takes ha hrest
      exact ⟨hle, congrArg (Except.map fun (v, r) => (soFar.insert name v, r)) hdecode⟩

/-- The entries of an object are read back as a map, the last of several for a name. -/
theorem entries_takes {d : Decoder α} {toJson : α → Value} {pairs : List (String × α)}
    (hpairs : ∀ e ∈ pairs, d.Takes (toJson e.2).write e.2) :
    (entries (some d)).Takes (Value.object (pairs.map fun e => (e.1, toJson e.2))).write
      (.ofList pairs) := by
  intro rest _
  have htaken := takesAll_entry hpairs ∅
  rw [← Std.ExtTreeMap.ofList_eq_insertMany_empty] at htaken
  obtain ⟨hshorter, hmembers⟩ := members_writeMembers htaken rest
  rw [Value.write, List.append_assoc, List.cons_append, List.singleton_append]
  refine ⟨Nat.lt_succ_of_lt hshorter, ?_⟩
  rw [entries, skipSpace_cons (by decide)]
  simp only [Rest.all, if_true, hmembers]
  rfl

/-- A map is made again from its entries in whatever order. -/
theorem ofList_of_perm {t : Std.ExtTreeMap String α} {pairs : List (String × α)}
    (h : pairs.Perm t.toList) : Std.ExtTreeMap.ofList pairs = t := by
  have hdistinct : pairs.Pairwise fun a b => ¬ compare a.1 b.1 = .eq :=
    (h.pairwise_iff fun hne heq => hne (Std.OrientedCmp.eq_symm heq)).2
      Std.ExtTreeMap.distinct_keys_toList
  apply Std.ExtTreeMap.ext_getElem?
  intro k
  cases hk : t[k]? with
  | some a =>
      have hmem : (k, a) ∈ pairs := h.mem_iff.2 (Std.ExtTreeMap.mem_toList_iff_getElem?_eq_some.2 hk)
      exact Std.ExtTreeMap.getElem?_ofList_of_mem Std.ReflCmp.compare_self hdistinct hmem
  | none =>
      apply Std.ExtTreeMap.getElem?_ofList_of_contains_eq_false
      rw [Bool.eq_false_iff]
      intro hcontains
      obtain ⟨⟨name, a⟩, hmem, rfl⟩ := List.mem_map.1 (List.contains_iff_mem.1 hcontains)
      rw [h.mem_iff, Std.ExtTreeMap.mem_toList_iff_getElem?_eq_some, hk] at hmem
      cases hmem

/-! ## Fields that are left out -/

namespace Fields

variable {name : String} {rest : Fields αs} {ms : List (String × Value)} {as : Values αs}

theorem forall_mem_optional {toJson : α → Value} {o : Option α} {p : String × Value → Prop} :
    (∀ m ∈ o.toList.map fun a => (name, toJson a), p m) ↔ ∀ a ∈ o, p (name, toJson a) := by
  cases o <;> simp

/-- A field that may be left out is written where there is a value for it. -/
theorem Spelled.optional {d : Decoder α} {toJson : α → Value} {o : Option α}
    (ho : ∀ a ∈ o, toJson a ≠ .null ∧ d.Takes (toJson a).write a) (h : rest.Spelled ms as) :
    (Fields.cons name (Json.optional d) (.anywhere none) rest).Spelled
      (o.toList.map (fun a => (name, toJson a)) ++ ms) (o, as) := by
  cases o with
  | none => exact .absent rfl h
  | some a =>
      obtain ⟨hnull, ha⟩ := ho a rfl
      exact .present (optional_takes hnull ha) h

end Fields

end MeshRegistry.Json
