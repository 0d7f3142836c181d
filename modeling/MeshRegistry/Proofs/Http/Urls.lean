import MeshRegistry.Http.Url
import MeshRegistry.Proofs.Http.Spelling
import MeshRegistry.Proofs.Text.Parts

/-!
# What a client asks for

A client asks for the path in the text of an address, with some of its characters spelled by percent
signs, and for a query behind it.  That is so as long as nothing in the path is dropped, counts as a
slash or is carried out; slashes, percent signs and what is unreserved are always left as they stand.
-/

namespace MeshRegistry.Http

/-- Which characters of a path a client spells with percent signs. -/
structure PathEncoding where
  isReserved : Char → Bool
  slash : isReserved '/' = false
  percent : isReserved '%' = false
  unreserved : ∀ c, isUnreserved c = true → isReserved c = false
  allowed : ∀ c, isReserved c = false → isPathChar c = true

/-- The text begins with a question mark and may follow a path, or there is none. -/
def IsQuery (s : List Char) : Prop :=
  (∀ c ∈ s, isQueryChar c = true) ∧ ∀ c ∈ s.head?, c = '?'

/-- The path of a text, up to its query or fragment. -/
def pathText (s : List Char) : List Char :=
  s.takeWhile fun c => c ≠ '?' ∧ c ≠ '#'

/-- A client drops no character of the path in a text, and carries none of its parts out. -/
structure IsKept (s : List Char) : Prop where
  chars : ∀ c ∈ pathText s, c ∉ ['\\', '\t', '\n', '\r']
  parts : ∀ part ∈ Text.splitParts (· == '/') (pathText s),
    spelledText? part ≠ some "." ∧ spelledText? part ≠ some ".."
  last : pathText s = s → ∀ c ∈ s.getLast?, 0x20 < c.toNat

instance (s : List Char) : Decidable (IsKept s) :=
  decidable_of_iff
    ((pathText s).all (fun c => c ∉ ['\\', '\t', '\n', '\r']) = true ∧
      (Text.splitParts (· == '/') (pathText s)).all
        (fun part => spelledText? part ≠ some "." ∧ spelledText? part ≠ some "..") = true ∧
      (pathText s = s → s.getLast?.all (fun c => 0x20 < c.toNat) = true))
    (by
      simp only [List.all_eq_true, Option.all_eq_true, decide_eq_true_eq]
      exact ⟨fun h => ⟨h.1, h.2.1, h.2.2⟩, fun h => ⟨h.chars, h.parts, h.last⟩⟩)

theorem isQuery_nil : IsQuery [] :=
  ⟨by simp, by simp⟩

/-- What stands behind the path of a text begins its query or its fragment. -/
theorem exists_eq_pathText_append (s : List Char) :
    ∃ behind, s = pathText s ++ behind ∧ ∀ c ∈ behind.head?, c = '?' ∨ c = '#' := by
  refine ⟨s.dropWhile fun c => c ≠ '?' ∧ c ≠ '#', List.takeWhile_append_dropWhile.symm, ?_⟩
  intro c hc
  have hends := List.head?_dropWhile_not (fun c => c ≠ '?' ∧ c ≠ '#') s
  rw [Option.mem_def.1 hc] at hends
  by_contra hmark
  simp_all

theorem ne_of_mem_pathText {c : Char} {s : List Char} (h : c ∈ pathText s) : c ≠ '?' ∧ c ≠ '#' := by
  simpa using List.mem_takeWhile_imp h

theorem lt_of_mem_getLast? {n : Nat} {d : Char} {s : List Char} (hd : n < d.toNat)
    (hs : ∀ c ∈ s.getLast?, n < c.toNat) (before : List Char) :
    ∀ c ∈ (before ++ d :: s).getLast?, n < c.toNat := by
  intro c hc
  rw [List.getLast?_append_cons, List.getLast?_cons, Option.mem_some_iff] at hc
  rw [← hc]
  cases hlast : s.getLast? with
  | none => exact hd
  | some e => exact hs e hlast

/-- A part in front of a text that is kept is kept with it. -/
theorem IsKept.behind_part {first s : List Char} (h : IsKept s)
    (hfirst : ∀ c ∈ first, c ≠ '?' ∧ c ≠ '#' ∧ c ≠ '/' ∧ c ∉ ['\\', '\t', '\n', '\r'])
    (hdots : spelledText? first ≠ some "." ∧ spelledText? first ≠ some "..") :
    IsKept (first ++ '/' :: s) := by
  have hinside : ∀ c ∈ first, decide (c ≠ '?' ∧ c ≠ '#') = true :=
    fun c hc => decide_eq_true ⟨(hfirst c hc).1, (hfirst c hc).2.1⟩
  have hpath : pathText (first ++ '/' :: s) = first ++ '/' :: pathText s :=
    List.takeWhile_append_of_pos hinside
  have hslash : '/' ∉ first := fun hmem => (hfirst _ hmem).2.2.1 rfl
  refine ⟨?_, ?_, ?_⟩
  · rw [hpath, List.forall_mem_append, List.forall_mem_cons]
    exact ⟨fun c hc => (hfirst c hc).2.2.2, by decide, h.chars⟩
  · rw [hpath, Text.splitParts_eq_splitOn, List.splitOn_append_cons_self_of_not_mem hslash,
      ← Text.splitParts_eq_splitOn, List.forall_mem_cons]
    exact ⟨hdots, h.parts⟩
  · rw [hpath, List.append_cancel_left_eq, List.cons.injEq]
    rintro ⟨-, hsame⟩
    exact lt_of_mem_getLast? (by decide) (h.last hsame) first

/-! ## Encoded text -/

section Encoding

variable {isReserved : Char → Bool}

theorem percentEncode_append (s t : List Char) :
    percentEncode isReserved (s ++ t) = percentEncode isReserved s ++ percentEncode isReserved t :=
  List.flatMap_append

theorem percentEncode_eq_self {s : List Char} (h : ∀ c ∈ s, isReserved c = false) :
    percentEncode isReserved s = s := by
  induction s with
  | nil => rfl
  | cons c s ih =>
      rw [List.forall_mem_cons] at h
      rw [percentEncode_cons_of_neg h.1, ih h.2]

theorem percentEncode_eq_nil_iff {s : List Char} : percentEncode isReserved s = [] ↔ s = [] := by
  refine ⟨fun h => ?_, fun h => by rw [h]; rfl⟩
  cases s with
  | nil => rfl
  | cons c s =>
      cases hc : isReserved c with
      | false =>
          rw [percentEncode_cons_of_neg hc] at h
          cases h
      | true =>
          obtain ⟨b, bs, hbytes⟩ := List.exists_cons_of_length_pos (length_encodeChar_pos c)
          rw [percentEncode_cons_of_pos hc, hbytes] at h
          cases h

/-- An encoded text holds characters that are left alone, percent signs and digits. -/
theorem mem_percentEncode {c : Char} {s : List Char} (h : c ∈ percentEncode isReserved s) :
    (c ∈ s ∧ isReserved c = false) ∨ c = '%' ∨ ∃ n < 16, IsHexDigit c n := by
  obtain ⟨d, hd, hc⟩ := List.mem_flatMap.1 h
  cases hreserved : isReserved d with
  | false =>
      rw [hreserved, if_neg (by decide), List.mem_singleton] at hc
      exact .inl ⟨hc ▸ hd, hc ▸ hreserved⟩
  | true =>
      rw [hreserved, if_pos rfl] at hc
      obtain ⟨b, -, hb⟩ := List.mem_flatMap.1 hc
      have hlt := b.toNat_lt
      simp only [percentEncodeByte, List.mem_cons, List.not_mem_nil, or_false] at hb
      rcases hb with rfl | rfl | rfl
      · exact .inr (.inl rfl)
      · exact .inr (.inr ⟨b.toNat / 16, by omega, .inr rfl⟩)
      · exact .inr (.inr ⟨b.toNat % 16, by omega, .inr rfl⟩)

/-- What a client may leave alone, a percent sign and a digit all may stand in an encoded text. -/
theorem forall_mem_percentEncode {p : Char → Bool} (hpercent : p '%' = true)
    (hdigit : ∀ n < 16, p n.digitChar = true ∧ p n.digitChar.toUpper = true)
    (hallowed : ∀ c, isReserved c = false → p c = true) (s : List Char) :
    ∀ c ∈ percentEncode isReserved s, p c = true := by
  intro c hc
  obtain ⟨-, hfree⟩ | rfl | ⟨n, hn, rfl | rfl⟩ := mem_percentEncode hc
  · exact hallowed c hfree
  · exact hpercent
  · exact (hdigit n hn).1
  · exact (hdigit n hn).2

end Encoding

theorem PathEncoding.isPathChar (e : PathEncoding) (s : List Char) :
    ∀ c ∈ percentEncode e.isReserved s, Http.isPathChar c = true :=
  forall_mem_percentEncode (by decide) (by decide) e.allowed s

/-- Encoding puts no slash into a part of a path and takes none out of it. -/
theorem PathEncoding.slash_mem_iff (e : PathEncoding) {s : List Char} :
    '/' ∈ percentEncode e.isReserved s ↔ '/' ∈ s := by
  constructor
  · intro h
    obtain ⟨hs, -⟩ | h | ⟨n, hn, h⟩ := mem_percentEncode h
    · exact hs
    · exact absurd h (by decide)
    · exact absurd rfl (isPathChar_of_isHexDigit hn h).2
  · intro h
    refine List.mem_flatMap.2 ⟨'/', h, ?_⟩
    rw [e.slash, if_neg (by decide)]
    exact List.mem_singleton_self '/'

theorem lt_of_hexDigit? {c : Char} (h : (Text.hexDigit? c).isSome = true) : c.toNat < 0x80 := by
  have bound {a b : Char} (h : a ≤ b) : a.toNat ≤ b.toNat := h
  simp only [Text.hexDigit?] at h
  split_ifs at h with h1 h2 h3
  · exact Nat.lt_of_le_of_lt (bound h1.2) (by decide)
  · exact Nat.lt_of_le_of_lt (bound h2.2) (by decide)
  · exact Nat.lt_of_le_of_lt (bound h3.2) (by decide)
  · cases h

theorem isUnreserved_of_hexDigit? {c : Char} (h : (Text.hexDigit? c).isSome = true) :
    isUnreserved c = true :=
  Text.ascii_induction (P := fun c => (Text.hexDigit? c).isSome = true → isUnreserved c = true)
    (by decide +kernel) (lt_of_hexDigit? h) h

theorem PathEncoding.percentDecode (e : PathEncoding) (s : List Char) :
    Http.percentDecode (percentEncode e.isReserved s) = Http.percentDecode s :=
  percentDecode_percentEncode e.percent
    (fun c hc => e.unreserved c (isUnreserved_of_hexDigit? hc)) s

theorem PathEncoding.spelledText? (e : PathEncoding) (s : List Char) :
    Http.spelledText? (percentEncode e.isReserved s) = Http.spelledText? s :=
  congrArg Text.ofBytes? (e.percentDecode s)

/-! ## Reading an address -/

namespace Url

theorem lt_of_isReservedInPath {c : Char} (h : isReservedInPath c = false) : c.toNat < 0x80 := by
  simp only [isReservedInPath, Bool.or_eq_false_iff, decide_eq_false_iff_not] at h
  omega

theorem lt_of_isReservedInQuery {c : Char} (h : isReservedInQuery c = false) : c.toNat < 0x80 := by
  simp only [isReservedInQuery, Bool.or_eq_false_iff, decide_eq_false_iff_not] at h
  omega

/-- What is spelled with percent signs in a path. -/
def encoding : PathEncoding where
  isReserved := isReservedInPath
  slash := by decide
  percent := by decide
  unreserved := fun c h => Text.ascii_induction
    (P := fun c => isUnreserved c = true → isReservedInPath c = false)
    (by decide +kernel) (lt_of_isUnreserved h) h
  allowed := fun c h => Text.ascii_induction
    (P := fun c => isReservedInPath c = false → isPathChar c = true)
    (by decide +kernel) (lt_of_isReservedInPath h) h

theorem isQuery_percentEncode {s : List Char} (h : ∀ c ∈ s.head?, c = '?') :
    IsQuery (percentEncode isReservedInQuery s) := by
  have hallowed : ∀ c, isReservedInQuery c = false → isQueryChar c = true :=
    fun c h => Text.ascii_induction
      (P := fun c => isReservedInQuery c = false → isQueryChar c = true)
      (by decide +kernel) (lt_of_isReservedInQuery h) h
  refine ⟨forall_mem_percentEncode (by decide) (by decide) hallowed s, ?_⟩
  cases s with
  | nil => simp [percentEncode]
  | cons c s =>
      obtain rfl : c = '?' := h c rfl
      rw [percentEncode_cons_of_neg (by decide)]
      simp

/-- Trimming the end of a text stops at a character that is kept. -/
theorem reverse_dropWhile_reverse_append {p : Char → Bool} {c : Char} (hc : p c = false)
    (before behind : List Char) :
    ((before ++ c :: behind).reverse.dropWhile p).reverse =
      before ++ c :: (behind.reverse.dropWhile p).reverse := by
  have hreverse : (before ++ c :: behind).reverse = behind.reverse ++ c :: before.reverse := by simp
  rw [hreverse, List.dropWhile_append]
  cases hdrop : behind.reverse.dropWhile p with
  | nil => simp [hc]
  | cons d rest => simp

/-- Only at the end of an address, behind its path, may something be dropped. -/
theorem cleaned_append {front behind : List Char} (hfirst : ∀ c ∈ front.head?, 0x20 < c.toNat)
    (hne : front ≠ []) (hfront : ∀ c ∈ front, c ≠ '\t' ∧ c ≠ '\n' ∧ c ≠ '\r')
    (hlast : behind = [] → ∀ c ∈ front.getLast?, 0x20 < c.toNat)
    (hmark : ∀ c ∈ behind.head?, c = '?' ∨ c = '#') :
    ∃ kept, cleaned (front ++ behind) = front ++ kept ∧ (behind = [] → kept = []) ∧
      ∀ c ∈ kept.head?, c = '?' ∨ c = '#' := by
  have hstart : (front ++ behind).dropWhile (fun c => decide (c.toNat ≤ 0x20)) = front ++ behind := by
    cases front with
    | nil => exact absurd rfl hne
    | cons c front => simp [hfirst c rfl]
  have hfilter : front.filter (fun c => c ≠ '\t' ∧ c ≠ '\n' ∧ c ≠ '\r') = front :=
    List.filter_eq_self.2 fun c hc => decide_eq_true (hfront c hc)
  simp only [cleaned, hstart]
  cases behind with
  | nil =>
      obtain ⟨before, c, rfl⟩ : ∃ before c, front = before ++ [c] :=
        ⟨front.dropLast, front.getLast hne, (List.dropLast_append_getLast hne).symm⟩
      have hc : decide (c.toNat ≤ 0x20) = false :=
        decide_eq_false (Nat.not_le.2 (hlast rfl c (by simp)))
      rw [List.append_nil,
        reverse_dropWhile_reverse_append (p := fun c => decide (c.toNat ≤ 0x20)) hc, List.reverse_nil,
        List.dropWhile_nil, List.reverse_nil, hfilter]
      exact ⟨[], (List.append_nil _).symm, fun _ => rfl, by simp⟩
  | cons c behind =>
      have hc : decide (c.toNat ≤ 0x20) = false := by
        rcases hmark c rfl with rfl | rfl <;> decide
      rw [reverse_dropWhile_reverse_append hc, List.filter_append, hfilter]
      refine ⟨_, rfl, fun h => absurd h (List.cons_ne_nil _ _), ?_⟩
      have hkept : c ≠ '\t' ∧ c ≠ '\n' ∧ c ≠ '\r' := by
        rcases hmark c rfl with rfl | rfl <;> decide
      rw [List.filter_cons, if_pos (decide_eq_true hkept)]
      exact hmark

/-! Parts that stay where they are or go back are spelled with full stops. -/

theorem eq_of_toLower_eq {c d : Char} (hd : d = '.' ∨ d = '%' ∨ d = '2') (h : c.toLower = d) :
    c = d := by
  by_cases hc : c.toNat < 0x80
  · have hsmall := Text.ascii_induction (P := fun c => (c.toLower = '.' → c = '.') ∧
      (c.toLower = '%' → c = '%') ∧ (c.toLower = '2' → c = '2')) (by decide +kernel) hc
    rcases hd with rfl | rfl | rfl
    · exact hsmall.1 h
    · exact hsmall.2.1 h
    · exact hsmall.2.2 h
  · rwa [Text.toLower_of_le (Nat.le_of_not_lt hc)] at h

theorem hexDigit?_of_toLower_eq {c : Char} (h : c.toLower = 'e') : Text.hexDigit? c = some 14 := by
  by_cases hc : c.toNat < 0x80
  · exact Text.ascii_induction (P := fun c => c.toLower = 'e' → Text.hexDigit? c = some 14)
      (by decide +kernel) hc h
  · rw [Text.toLower_of_le (Nat.le_of_not_lt hc)] at h
    rw [h]
    decide

/-- However a full stop is written, it is decoded to one. -/
theorem percentDecode_of_toLower {w dot behind : List Char} (hdot : dot ∈ hereParts)
    (h : w.map Char.toLower = dot ++ behind) :
    ∃ rest, rest.map Char.toLower = behind ∧ Http.percentDecode w = 46 :: Http.percentDecode rest := by
  have hcases : dot = ['.'] ∨ dot = ['%', '2', 'e'] := by simpa [hereParts] using hdot
  rcases hcases with rfl | rfl
  · obtain ⟨a, rest, rfl, ha, hrest⟩ := List.map_eq_cons_iff.1 h
    obtain rfl := eq_of_toLower_eq (by decide) ha
    refine ⟨rest, hrest, ?_⟩
    rw [percentDecode_cons (by decide)]
    rfl
  · obtain ⟨a, rest, rfl, ha, h⟩ := List.map_eq_cons_iff.1 h
    obtain ⟨b, rest, rfl, hb, h⟩ := List.map_eq_cons_iff.1 h
    obtain ⟨c, rest, rfl, hc, hrest⟩ := List.map_eq_cons_iff.1 h
    obtain rfl := eq_of_toLower_eq (by decide) ha
    obtain rfl := eq_of_toLower_eq (by decide) hb
    have htwo : Text.hexDigit? '2' = some 2 := by decide
    refine ⟨rest, hrest, ?_⟩
    rw [percentDecode_escape htwo (hexDigit?_of_toLower_eq hc)]
    rfl

theorem spelledText?_of_mem_hereParts {w : List Char} (h : w.map Char.toLower ∈ hereParts) :
    spelledText? w = some "." := by
  obtain ⟨rest, hrest, hdecode⟩ := percentDecode_of_toLower h (List.append_nil _).symm
  rw [List.map_eq_nil_iff] at hrest
  rw [spelledText?, hdecode, hrest, percentDecode_nil]
  decide

theorem spelledText?_of_mem_backParts {w : List Char} (h : w.map Char.toLower ∈ backParts) :
    spelledText? w = some ".." := by
  have hdots : ∀ word ∈ backParts, ∃ a ∈ hereParts, ∃ b ∈ hereParts, word = a ++ (b ++ []) := by
    decide
  obtain ⟨a, ha, b, hb, hword⟩ := hdots _ h
  obtain ⟨behind, hbehind, hfirst⟩ := percentDecode_of_toLower ha hword
  obtain ⟨rest, hrest, hsecond⟩ := percentDecode_of_toLower hb hbehind
  rw [List.map_eq_nil_iff] at hrest
  rw [spelledText?, hfirst, hsecond, hrest, percentDecode_nil]
  decide

theorem resolve_eq {parts : List (List Char)}
    (h : ∀ part ∈ parts, spelledText? part ≠ some "." ∧ spelledText? part ≠ some "..")
    (before : List (List Char)) : resolve before parts = before.reverse ++ parts := by
  induction parts generalizing before with
  | nil => rw [resolve, List.append_nil]
  | cons part parts ih =>
      rw [List.forall_mem_cons] at h
      have hback : part.map Char.toLower ∉ backParts := mt spelledText?_of_mem_backParts h.1.2
      have hhere : part.map Char.toLower ∉ hereParts := mt spelledText?_of_mem_hereParts h.1.1
      simp only [resolve, List.contains_eq_mem, hback, hhere, decide_false, Bool.false_eq_true,
        if_false]
      rw [ih h.2]
      simp

theorem flatMap_parts {parts : List (List Char)} (hne : parts ≠ []) :
    (parts.map (percentEncode isReservedInPath)).flatMap ('/' :: ·) =
      percentEncode isReservedInPath ('/' :: ['/'].intercalate parts) := by
  have hslash : isReservedInPath '/' = false := encoding.slash
  induction parts with
  | nil => exact absurd rfl hne
  | cons part parts ih =>
      rw [percentEncode_cons_of_neg hslash]
      cases parts with
      | nil => simp
      | cons next parts =>
          rw [List.map_cons, List.flatMap_cons, ih (List.cons_ne_nil _ _), List.intercalate_cons_cons,
            List.append_assoc, percentEncode_append]
          rfl

theorem pathOf_eq {s : List Char} (hback : '\\' ∉ s)
    (hparts : ∀ part ∈ Text.splitParts (· == '/') s,
      spelledText? part ≠ some "." ∧ spelledText? part ≠ some "..") :
    pathOf ('/' :: s) = percentEncode isReservedInPath ('/' :: s) := by
  have hslash : ∀ c ∈ s, isSlash c = (c == '/') := by
    intro c hc
    have hne : c ≠ '\\' := fun h => hback (h ▸ hc)
    rw [isSlash, decide_eq_false hne, Bool.or_false]
    rfl
  have hne := Text.splitParts_ne_nil (· == '/') s
  have hjoin := ((Text.splitParts_eq_iff hne).1 rfl).2
  have hkept : ∀ part ∈ (Text.splitParts (· == '/') s).map (percentEncode isReservedInPath),
      spelledText? part ≠ some "." ∧ spelledText? part ≠ some ".." := by
    rw [List.forall_mem_map]
    intro part hpart
    have hsame : spelledText? (percentEncode isReservedInPath part) = spelledText? part :=
      encoding.spelledText? part
    rw [hsame]
    exact hparts part hpart
  have hfirst : isSlash '/' = true := by decide
  simp only [pathOf, hfirst, if_true]
  rw [Text.splitParts_congr hslash, resolve_eq hkept, List.reverse_nil, List.nil_append,
    flatMap_parts hne, ← hjoin]

theorem not_endsHost {c : Char} (h : isHostChar c = true) :
    endsHost c = false ∧ c ≠ '\t' ∧ c ≠ '\n' ∧ c ≠ '\r' := by
  refine ⟨?_, ?_, ?_, ?_⟩
  · by_contra hends
    simp only [endsHost, isSlash, Bool.not_eq_false, Bool.or_eq_true, decide_eq_true_eq] at hends
    rcases hends with ((rfl | rfl) | rfl) | rfl <;> exact absurd h (by decide)
  all_goals rintro rfl; exact absurd h (by decide)

theorem behindScheme?_http {s : List Char} (hslash : ∀ c ∈ s.head?, isSlash c = false) :
    behindScheme? ("http://".toList ++ s) = some s := by
  have hread : behindScheme? ("http://".toList ++ s) = some (s.dropWhile isSlash) := rfl
  rw [hread]
  cases s with
  | nil => rfl
  | cons c s => rw [List.dropWhile_cons_of_neg (by simp [hslash c rfl])]

theorem cut_behind_host {host : List Char} (hchars : ∀ c ∈ host, isHostChar c = true)
    (rest : List Char) :
    (host ++ '/' :: rest).takeWhile (fun c => !endsHost c) = host ∧
      (host ++ '/' :: rest).dropWhile (fun c => !endsHost c) = '/' :: rest := by
  have hinside : ∀ c ∈ host, (!endsHost c) = true := by
    intro c hc
    rw [(not_endsHost (hchars c hc)).1]
    rfl
  rw [List.takeWhile_append_of_pos hinside, List.dropWhile_append_of_pos hinside]
  exact ⟨List.append_nil _, rfl⟩

/-- A query ends where a fragment begins. -/
theorem cut_behind_path {path behind : List Char} (hpath : ∀ c ∈ path, c ≠ '?' ∧ c ≠ '#')
    (hmark : ∀ c ∈ behind.head?, c = '?' ∨ c = '#') :
    ∃ query, (∀ c ∈ query.head?, c = '?') ∧ (behind = [] → query = []) ∧
      ((path ++ behind).takeWhile (· != '#')).takeWhile (· != '?') = path ∧
      ((path ++ behind).takeWhile (· != '#')).dropWhile (· != '?') = query := by
  have hquestion : ∀ c ∈ path, (c != '?') = true := fun c hc => bne_iff_ne.2 (hpath c hc).1
  have hnumber : ∀ c ∈ path, (c != '#') = true := fun c hc => bne_iff_ne.2 (hpath c hc).2
  rw [List.takeWhile_append_of_pos hnumber, List.takeWhile_append_of_pos hquestion,
    List.dropWhile_append_of_pos hquestion]
  cases behind with
  | nil => exact ⟨[], by simp, fun _ => rfl, List.append_nil _, rfl⟩
  | cons c behind =>
      rcases hmark c rfl with rfl | rfl
      · exact ⟨'?' :: behind.takeWhile (· != '#'), by simp, by simp, List.append_nil _, rfl⟩
      · exact ⟨[], by simp, by simp, List.append_nil _, rfl⟩

theorem parse?_of_cleaned {s host path behind : List Char}
    (hs : cleaned s = "http://".toList ++ (host ++ '/' :: (path ++ behind))) (hhost : host ≠ [])
    (hchars : ∀ c ∈ host, isHostChar c = true) (hpath : ∀ c ∈ path, c ≠ '?' ∧ c ≠ '#')
    (hmark : ∀ c ∈ behind.head?, c = '?' ∨ c = '#') :
    ∃ query, IsQuery query ∧ (behind = [] → query = []) ∧
      parse? s = some ⟨host, pathOf ('/' :: path) ++ query⟩ := by
  have hscheme : behindScheme? (cleaned s) = some (host ++ '/' :: (path ++ behind)) := by
    rw [hs]
    apply behindScheme?_http
    cases host with
    | nil => exact absurd rfl hhost
    | cons c host =>
        have hends := (not_endsHost (hchars c List.mem_cons_self)).1
        simp only [endsHost, Bool.or_eq_false_iff] at hends
        simp [hends.1.1]
  have hfront : ∀ c ∈ '/' :: path, c ≠ '?' ∧ c ≠ '#' := by
    rw [List.forall_mem_cons]
    exact ⟨by decide, hpath⟩
  obtain ⟨htake, hdrop⟩ := cut_behind_host hchars (path ++ behind)
  obtain ⟨query, hquery, hempty, hpathCut, hqueryCut⟩ := cut_behind_path hfront hmark
  rw [List.cons_append] at hpathCut hqueryCut
  refine ⟨percentEncode isReservedInQuery query, isQuery_percentEncode hquery, ?_, ?_⟩
  · intro hnone
    rw [hempty hnone]
    rfl
  · have hgood : ¬ (host.isEmpty = true ∨ (!host.all isHostChar) = true) := by
      simpa [hhost] using hchars
    simp only [parse?, hscheme, Option.bind_eq_bind, Option.bind_some, htake, hdrop, hpathCut,
      hqueryCut, if_neg hgood]
    rfl

/-- A client connects to the host of an address, and asks for its path and perhaps for a query. -/
theorem parse?_of_isKept {host s : List Char} (hhost : host ≠ [])
    (hchars : ∀ c ∈ host, isHostChar c = true) (hkept : IsKept s) :
    ∃ query, IsQuery query ∧ (pathText s = s → query = []) ∧
      parse? ("http://".toList ++ (host ++ '/' :: s)) =
        some ⟨host, percentEncode isReservedInPath ('/' :: pathText s) ++ query⟩ := by
  obtain ⟨behind, hs, hmark⟩ := exists_eq_pathText_append s
  have hback : '\\' ∉ pathText s := fun h => hkept.chars _ h (by simp)
  let front := "http://".toList ++ (host ++ '/' :: pathText s)
  have hfront : ∀ c ∈ front, c ≠ '\t' ∧ c ≠ '\n' ∧ c ≠ '\r' := by
    have hscheme : ∀ c ∈ "http://".toList, c ≠ '\t' ∧ c ≠ '\n' ∧ c ≠ '\r' := by simp
    simp only [front, List.forall_mem_append, List.forall_mem_cons]
    refine ⟨hscheme, fun c hc => (not_endsHost (hchars c hc)).2, by decide, fun c hc => ?_⟩
    have hmem := hkept.chars c hc
    simp only [List.mem_cons, List.not_mem_nil, or_false, not_or] at hmem
    exact hmem.2
  have hlast : behind = [] → ∀ c ∈ front.getLast?, 0x20 < c.toNat := by
    rintro rfl
    rw [List.append_nil] at hs
    have hend := lt_of_mem_getLast? (d := '/') (by decide) (hkept.last hs.symm)
      ("http://".toList ++ host)
    rwa [List.append_assoc, hs] at hend
  obtain ⟨kept, hcleaned, hnothing, hkeptMark⟩ :=
    cleaned_append (by simp [front]) (by simp [front]) hfront hlast hmark
  have hwhole : "http://".toList ++ (host ++ '/' :: s) = front ++ behind := by
    simp [front, ← hs]
  have hsplit : cleaned (front ++ behind) =
      "http://".toList ++ (host ++ '/' :: (pathText s ++ kept)) := by
    rw [hcleaned]
    simp [front]
  obtain ⟨query, hquery, hempty, hparse⟩ :=
    parse?_of_cleaned hsplit hhost hchars (fun c => ne_of_mem_pathText) hkeptMark
  refine ⟨query, hquery, ?_, ?_⟩
  · intro hsame
    rw [hsame] at hs
    exact hempty (hnothing (List.append_right_eq_self.1 hs.symm))
  · rw [hwhole, hparse, pathOf_eq hback hkept.parts]

end Url

end MeshRegistry.Http
