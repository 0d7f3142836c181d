import MeshRegistry.Address.Socket
import MeshRegistry.Proofs.Address.Written
import MeshRegistry.Proofs.Text.Blank

/-!
# Reading back what was written: IPv6 addresses

The text of an address leaves out a run of zero groups, or ends in an IPv4 address.  The reader puts
the zeros back: it knows how many there were, because an address has eight groups.
-/

namespace MeshRegistry.Ipv6

open Address

/-! ## Groups -/

/-- The text behind a group does not go on with a digit. -/
def NoHexInFront (s : List Char) : Prop :=
  ∀ c ∈ s.head?, Text.hexDigit? c = none

theorem noHexInFront_nil : NoHexInFront [] := by
  simp [NoHexInFront]

theorem noHexInFront_colon (s : List Char) : NoHexInFront (':' :: s) := by
  rintro c ⟨⟩
  decide

theorem readGroup_toDigits (g : UInt16) {rest : List Char} (hrest : NoHexInFront rest) :
    readGroup (Nat.toDigits 16 g.toNat ++ rest) = some (g, rest) := by
  have hg : g.toNat < 65536 := g.toNat_lt
  have hdigits := readDigits_toDigits (by decide) readsDigits_hexadecimal g.toNat hrest
  have hvalue := digitsValue_toDigits (by decide) readsDigits_hexadecimal g.toNat
  have hlong : (Nat.toDigits 16 g.toNat).length ≤ 4 := by
    rw [Nat.length_toDigits_le_iff (by decide) (by decide)]
    omega
  have hshort : 0 < (Nat.toDigits 16 g.toNat).length := Nat.length_toDigits_pos
  rw [readGroup, hdigits]
  simp only [hvalue, List.length_map, List.isEmpty_map]
  rw [if_neg, UInt16.ofNat_toNat]
  rintro (hempty | hlonger)
  · rw [List.isEmpty_iff_length_eq_zero] at hempty
    omega
  · omega

theorem readGroup_colon (s : List Char) : readGroup (':' :: s) = none :=
  rfl

theorem readIpv4_colon (s : List Char) : Ipv4.read (':' :: s) = none :=
  rfl

/-- The text of groups holds digits and colons only. -/
theorem mem_joined {gs : List UInt16} {c : Char} (hc : c ∈ joined gs) :
    c = ':' ∨ ∃ d < 16, c = d.digitChar := by
  induction gs with
  | nil => cases hc
  | cons g gs ih =>
      cases gs with
      | nil => exact .inr (exists_digitChar_of_mem_toDigits (by decide) hc)
      | cons g' gs =>
          rw [joined, List.mem_append, List.mem_cons] at hc
          · rcases hc with hc | hc | hc
            · exact .inr (exists_digitChar_of_mem_toDigits (by decide) hc)
            · exact .inl hc
            · exact ih hc
          · exact List.cons_ne_nil g' gs

theorem point_not_mem_joined (gs : List UInt16) : '.' ∉ joined gs := by
  have hdigit : ∀ d < 16, '.' ≠ d.digitChar := by decide
  intro hc
  rcases mem_joined hc with hcolon | ⟨d, hd, hc⟩
  · exact absurd hcolon (by decide)
  · exact hdigit d hd hc

theorem readGroups_colon (left : Nat) (s : List Char) :
    readGroups (left + 1) true (':' :: s) = ([], false, ':' :: s) := by
  simp [readGroups, readGroup_colon, readIpv4_colon]

theorem readGroups_colons (left : Nat) (s : List Char) :
    readGroups left false (':' :: ':' :: s) = ([], false, ':' :: ':' :: s) := by
  cases left with
  | zero => rfl
  | succ left => simp [readGroups, readChar, readGroup_colon, readIpv4_colon]

theorem readGroups_nil (left : Nat) (isFirst : Bool) :
    readGroups left isFirst [] = ([], false, []) := by
  cases left with
  | zero => rfl
  | succ left => cases isFirst <;> cases left <;> rfl

/-- Groups are read back, if there is room for them and what stands behind them is no more groups. -/
theorem readGroups_joined {gs : List UInt16} (hne : gs ≠ []) {left : Nat} (hroom : gs.length ≤ left)
    {rest : List Char} (hpoint : '.' ∉ rest) (hrest : NoHexInFront rest)
    (hstop : readGroups (left - gs.length) false rest = ([], false, rest)) {isFirst : Bool}
    {s : List Char} (hs : (if isFirst then some s else readChar ':' s) = some (joined gs ++ rest)) :
    readGroups left isFirst s = (gs, false, rest) := by
  induction gs generalizing left isFirst s with
  | nil => exact absurd rfl hne
  | cons g gs ih =>
      obtain ⟨left, rfl⟩ : ∃ n, left = n + 1 := ⟨left - 1, by simp at hroom; omega⟩
      have hipv4 : Ipv4.read (joined (g :: gs) ++ rest) = none := by
        apply Ipv4.read_eq_none
        rw [List.mem_append, not_or]
        exact ⟨point_not_mem_joined _, hpoint⟩
      rw [readGroups, hs]
      simp only [hipv4, ite_self]
      cases gs with
      | nil =>
          rw [joined, readGroup_toDigits g hrest]
          simp only [List.length_singleton, Nat.add_sub_cancel] at hstop
          simp only [hstop]
      | cons g' gs =>
          have hmore : readGroups left false (':' :: (joined (g' :: gs) ++ rest)) =
              (g' :: gs, false, rest) := by
            apply ih (List.cons_ne_nil g' gs) (by simpa using hroom) (by simpa using hstop)
            simp [readChar]
          rw [joined, List.append_assoc, List.cons_append,
            readGroup_toDigits g (noHexInFront_colon _)]
          · simp only [hmore]
          · exact List.cons_ne_nil g' gs

/-! ## The run of zeros that is left out -/

/-- The run that is left out lies where it is said to lie. -/
theorem longestRun_le (gs : List UInt16) :
    (longestRun gs).2 ≤ zerosInFront (gs.drop (longestRun gs).1) := by
  refine List.foldlRecOn (motive := fun best : Nat × Nat => best.2 ≤ zerosInFront (gs.drop best.1))
    (List.range gs.length) _ (Nat.zero_le _) ?_
  intro best hbest i _
  dsimp only
  split
  · exact Nat.le_refl _
  · exact hbest

theorem take_eq_replicate {gs : List UInt16} {n : Nat} (h : n ≤ zerosInFront gs) :
    gs.take n = List.replicate n 0 := by
  have hlength : (gs.take n).length = n := by
    have := (List.takeWhile_prefix (l := gs) (· == 0)).length_le
    rw [List.length_take]
    exact Nat.min_eq_left (Nat.le_trans h this)
  have hzeros : gs.take n <+: gs.takeWhile (· == 0) :=
    List.prefix_of_prefix_length_le (List.take_prefix n gs) (List.takeWhile_prefix _)
      (by rw [hlength]; exact h)
  rw [List.eq_replicate_iff]
  refine ⟨hlength, fun g hg => ?_⟩
  exact beq_iff_eq.1 (List.mem_takeWhile_imp (p := (· == 0)) (hzeros.subset hg))

/-- The groups in front of a run of zeros, the zeros, and the groups behind. -/
theorem eq_append_longestRun (gs : List UInt16) :
    gs = gs.take (longestRun gs).1 ++ List.replicate (longestRun gs).2 0 ++
      gs.drop ((longestRun gs).1 + (longestRun gs).2) := by
  rw [← take_eq_replicate (longestRun_le gs), List.append_assoc, ← List.drop_drop,
    List.take_append_drop, List.take_append_drop]

/-! ## The three forms of an address -/

theorem ofGroups?_groups (ip : Ipv6) : ofGroups? ip.groups = some ip := by
  rw [ofGroups?, dif_pos ip.length_groups]

theorem readGroups_joined_nil {gs : List UInt16} {left : Nat} (hroom : gs.length ≤ left) :
    readGroups left true (joined gs) = (gs, false, []) := by
  cases gs with
  | nil => exact readGroups_nil left true
  | cons g gs =>
      apply readGroups_joined (List.cons_ne_nil g gs) hroom List.not_mem_nil noHexInFront_nil
        (readGroups_nil _ false)
      rw [if_pos rfl, List.append_nil]

theorem read_joined (ip : Ipv6) : read (joined ip.groups) = some (ip, []) := by
  have hroom : ip.groups.length ≤ 8 := Nat.le_of_eq ip.length_groups
  rw [read, readGroups_joined_nil hroom]
  simp only [ip.length_groups, if_true, ofGroups?_groups, Option.map_some]

/-- The groups behind the gap are read, and zeros fill it. -/
theorem read_gap {ip : Ipv6} {front back : List UInt16} {n : Nat} (hn : 0 < n)
    (hgroups : ip.groups = front ++ List.replicate n 0 ++ back) :
    read (joined front ++ ':' :: ':' :: joined back) = some (ip, []) := by
  have hlength : front.length + n + back.length = 8 := by
    rw [← ip.length_groups, hgroups]
    simp only [List.length_append, List.length_replicate]
  have hpoint : '.' ∉ ':' :: ':' :: joined back := by
    simp [point_not_mem_joined]
  have hfront : readGroups 8 true (joined front ++ ':' :: ':' :: joined back) =
      (front, false, ':' :: ':' :: joined back) := by
    cases front with
    | nil => exact readGroups_colon 7 _
    | cons g gs =>
        apply readGroups_joined (List.cons_ne_nil g gs) (by omega) hpoint (noHexInFront_colon _)
          (readGroups_colons _ _)
        rw [if_pos rfl]
  have hback : readGroups (7 - front.length) true (joined back) = (back, false, []) :=
    readGroups_joined_nil (by omega)
  have hzeros : 8 - front.length - back.length = n := by omega
  rw [read, hfront]
  simp only [if_neg (show front.length ≠ 8 by omega), Bool.false_eq_true, if_false, readChar, if_true,
    Option.bind_eq_bind, Option.bind_some, hback, hzeros]
  rw [← hgroups, ofGroups?_groups]
  rfl

/-- The last two groups, spelled as an IPv4 address. -/
theorem groupsOfIpv4_mapped (x y : UInt16) :
    groupsOfIpv4 ⟨UInt8.ofNat (x.toNat / 256), UInt8.ofNat (x.toNat % 256),
      UInt8.ofNat (y.toNat / 256), UInt8.ofNat (y.toNat % 256)⟩ = [x, y] := by
  have hword : ∀ w : UInt16, UInt16.ofNat ((UInt8.ofNat (w.toNat / 256)).toNat * 256 +
      (UInt8.ofNat (w.toNat % 256)).toNat) = w := by
    intro w
    have hw : w.toNat < 65536 := w.toNat_lt
    have hhigh : w.toNat / 256 < 256 := by omega
    have hlow : w.toNat % 256 < 256 := by omega
    rw [UInt8.toNat_ofNat_of_lt' hhigh, UInt8.toNat_ofNat_of_lt' hlow, Nat.div_add_mod',
      UInt16.ofNat_toNat]
  rw [groupsOfIpv4, hword x, hword y]

theorem groups_of_mapped? {ip : Ipv6} {v4 : Ipv4} (h : ip.mapped? = some v4) :
    ip.groups = [0, 0, 0, 0, 0, 0xFFFF] ++ groupsOfIpv4 v4 := by
  rw [mapped?] at h
  split at h
  next x y hgroups =>
    cases h
    rw [hgroups, groupsOfIpv4_mapped]
    rfl
  next => cases h

theorem read_mapped {ip : Ipv6} {v4 : Ipv4} (h : ip.mapped? = some v4) :
    read ([':', ':', 'f', 'f', 'f', 'f', ':'] ++ v4.text) = some (ip, []) := by
  have hv4 := v4.read_text_nil
  have hmark : readGroup (['f', 'f', 'f', 'f'] ++ ':' :: v4.text) = some (0xFFFF, ':' :: v4.text) :=
    readGroup_toDigits 0xFFFF (noHexInFront_colon v4.text)
  have hletter : Ipv4.read (['f', 'f', 'f', 'f'] ++ ':' :: v4.text) = none := rfl
  have htail : readGroups 6 false (':' :: v4.text) = (groupsOfIpv4 v4, true, []) := by
    simp [readGroups, readChar, hv4]
  have hback : readGroups 7 true (['f', 'f', 'f', 'f'] ++ ':' :: v4.text) =
      (0xFFFF :: groupsOfIpv4 v4, true, []) := by
    rw [readGroups]
    simp only [if_true, hletter, ite_self, hmark, htail]
  have hfront : readGroups 8 true ([':', ':', 'f', 'f', 'f', 'f', ':'] ++ v4.text) =
      ([], false, [':', ':', 'f', 'f', 'f', 'f', ':'] ++ v4.text) := readGroups_colon 7 _
  have hlength : (groupsOfIpv4 v4).length = 2 := rfl
  rw [read, hfront]
  simp only [List.cons_append, List.nil_append] at hback ⊢
  simp only [List.length_nil, OfNat.zero_ne_ofNat, Bool.false_eq_true, if_false, readChar, if_true,
    Option.bind_eq_bind, Option.bind_some, Nat.sub_zero, hback, List.length_cons, hlength]
  rw [show List.replicate (8 - (2 + 1)) 0 ++ 0xFFFF :: groupsOfIpv4 v4 = ip.groups from
    (groups_of_mapped? h).symm, ofGroups?_groups]
  rfl

/-- Every address is read back from its text. -/
theorem read_text (ip : Ipv6) : read ip.text = some (ip, []) := by
  have hrun := eq_append_longestRun ip.groups
  rw [text]
  split
  next v4 hmapped => exact read_mapped hmapped
  next =>
    generalize longestRun ip.groups = run at hrun ⊢
    obtain ⟨start, length⟩ := run
    dsimp only at hrun ⊢
    split
    next hlong =>
      rw [List.append_assoc]
      exact read_gap (by omega) hrun
    next => exact read_joined ip

end MeshRegistry.Ipv6

namespace MeshRegistry

/-! ## Addresses of both kinds -/

theorem Ipv4.mem_text {ip : Ipv4} {c : Char} (hc : c ∈ ip.text) :
    c = '.' ∨ ∃ d < 10, c = d.digitChar := by
  have hdigits : ∀ n : UInt8, c ∈ Nat.toDigits 10 n.toNat → ∃ d < 10, c = d.digitChar :=
    fun _ => Address.exists_digitChar_of_mem_toDigits (by decide)
  simp only [Ipv4.text, List.mem_append, List.mem_cons] at hc
  rcases hc with ((hc | hc | hc) | hc | hc) | hc | hc
  all_goals first | exact .inl hc | exact .inr (hdigits _ hc)

theorem Ipv6.mem_text {ip : Ipv6} {c : Char} (hc : c ∈ ip.text) :
    c = '.' ∨ c = ':' ∨ ∃ d < 16, c = d.digitChar := by
  rw [Ipv6.text] at hc
  split at hc
  next v4 _ =>
    rcases List.mem_append.1 hc with hc | hc
    · have hmark : ∀ c ∈ [':', ':', 'f', 'f', 'f', 'f', ':'], c = ':' ∨ c = Nat.digitChar 15 := by
        simp
      rcases hmark c hc with hc | hc
      · exact .inr (.inl hc)
      · exact .inr (.inr ⟨15, by decide, hc⟩)
    · rcases Ipv4.mem_text hc with hc | ⟨d, hd, hc⟩
      · exact .inl hc
      · exact .inr (.inr ⟨d, by omega, hc⟩)
  next =>
    dsimp only at hc
    split at hc
    next =>
      rw [List.append_assoc, List.mem_append, List.cons_append, List.mem_cons, List.singleton_append,
        List.mem_cons] at hc
      rcases hc with hc | hc | hc | hc
      · exact .inr (Ipv6.mem_joined hc)
      · exact .inr (.inl hc)
      · exact .inr (.inl hc)
      · exact .inr (Ipv6.mem_joined hc)
    next => exact .inr (Ipv6.mem_joined hc)

namespace Ip

theorem mem_text {ip : Ip} {c : Char} (hc : c ∈ ip.text.toList) :
    c = '.' ∨ c = ':' ∨ ∃ d < 16, c = d.digitChar := by
  cases ip with
  | v4 ip =>
      rw [text, String.toList_ofList] at hc
      rcases Ipv4.mem_text hc with hc | ⟨d, hd, hc⟩
      · exact .inl hc
      · exact .inr (.inr ⟨d, by omega, hc⟩)
  | v6 ip =>
      rw [text, String.toList_ofList] at hc
      exact Ipv6.mem_text hc

theorem isBlank_of_mem_text {ip : Ip} : ∀ c ∈ ip.text.toList, Text.isBlank c = false := by
  have hdigit : ∀ d < 16, Text.isBlank d.digitChar = false := by decide
  intro c hc
  rcases mem_text hc with rfl | rfl | ⟨d, hd, rfl⟩
  · rfl
  · rfl
  · exact hdigit d hd

/-- No IPv6 address is taken for an IPv4 address. -/
theorem readIpv4_text (ip : Ipv6) : Ipv4.read ip.text = none := by
  rw [Ipv6.text]
  split
  next => rfl
  next =>
    apply Ipv4.read_eq_none
    dsimp only
    split
    next => simp [Ipv6.point_not_mem_joined]
    next => exact Ipv6.point_not_mem_joined _

/-- Every address is read back from its text, in which there are no blanks to trim. -/
theorem parse?_trim_text (ip : Ip) : parse? (Text.trim ip.text.toList) = some ip := by
  rw [Text.trim_eq_self isBlank_of_mem_text, parse?]
  cases ip with
  | v4 ip =>
      rw [text, String.toList_ofList, read, ip.read_text_nil]
  | v6 ip =>
      rw [text, String.toList_ofList, read, readIpv4_text, Ipv6.read_text]
      rfl

end Ip

end MeshRegistry
