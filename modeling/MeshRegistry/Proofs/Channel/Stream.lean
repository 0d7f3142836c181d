import Mathlib.Data.List.TakeWhile
import MeshRegistry.Channel.Connection
import MeshRegistry.Proofs.Registration.Acceptance

/-!
# A connection as a reading of its whole stream

The server takes bytes as they come and keeps what is not a line yet.  Here a connection is described
by the stream alone: it is cut at its line feeds, each line has its fate, and the first line that ends
the connection is the last one heard.  `run_eq_reading` says that this is what the server does, however
the stream was cut into chunks.
-/

namespace MeshRegistry.Channel

open Text (Bytes)

/-! ## The reading of a stream -/

/-- The lines that count when a connection ends: those that a line feed ends, and what stands behind
the last of them if the client closed its side or if that is too long already. -/
def countedLines (maxLine : Nat) (stream : Bytes) (ending : Ending) : List Bytes :=
  let parts := stream.splitOn lineFeed
  let unended := parts.getLastD []
  parts.dropLast ++ if ending = .closed ∨ maxLine < unended.length then [unended] else []

/-- A line ends the connection when it is too long or not UTF-8. -/
def endsAt (maxLine : Nat) (line : Bytes) : Bool :=
  decide (maxLine < line.length) || (Text.Utf8.decode (dropReturn line)).isNone

/-- The texts of some lines, those of blanks only left out. -/
def spokenTexts (lines : List Bytes) : List (List Char) :=
  (lines.filterMap fun line => Text.Utf8.decode (dropReturn line)).filter fun t => !Text.allBlank t

/-- The requests in some texts carried out, in order.  A text that is no request changes nothing. -/
def afterTexts (registry : Registry) (texts : List (List Char)) : Registry :=
  (texts.filterMap fun t => (Request.decode t).toOption).foldl (fun r q => (r.answer q).2) registry

/-- What a registry says to a text. -/
def replyTo (registry : Registry) (text : List Char) : Exchange :=
  match Request.decode text with
  | .ok q => ⟨some q, (registry.answer q).1⟩
  | .error p => ⟨none, malformedReply p⟩

/-- One reply to each text, given by the registry as the texts before it have left it. -/
def repliesTo (registry : Registry) (texts : List (List Char)) : List Exchange :=
  texts.mapIdx fun i text => replyTo (afterTexts registry (texts.take i)) text

/-- What is said to the line that ends a connection. -/
def lastWord (maxLine : Nat) : Option Bytes → List Exchange
  | some line => if maxLine < line.length then [⟨none, tooLongReply maxLine⟩] else []
  | none => []

/-- A connection seen from its end. -/
def reading (maxLine : Nat) (registry : Registry) (stream : Bytes) (ending : Ending) :
    Connection :=
  let lines := countedLines maxLine stream ending
  let texts := spokenTexts (lines.takeWhile fun line => !endsAt maxLine line)
  { registry := afterTexts registry texts
    exchanges := repliesTo registry texts ++ lastWord maxLine (lines.find? (endsAt maxLine))
    pending := []
    isOpen := false }

/-! ## Cutting a stream into lines -/

private theorem all_ne_lineFeed {line : Bytes} (h : lineFeed ∉ line) :
    ∀ b ∈ line, (b != lineFeed) = true := by
  intro b hb
  rw [bne_iff_ne]
  rintro rfl
  exact h hb

theorem splitLine_of_not_mem {buffer : Bytes} (h : lineFeed ∉ buffer) :
    splitLine buffer = (buffer, none) := by
  rw [splitLine, List.takeWhile_eq_self_iff.2 (all_ne_lineFeed h),
    List.dropWhile_eq_nil_iff.2 (all_ne_lineFeed h)]

theorem splitLine_append_cons {line : Bytes} (h : lineFeed ∉ line) (rest : Bytes) :
    splitLine (line ++ lineFeed :: rest) = (line, some rest) := by
  rw [splitLine, List.takeWhile_append_of_pos (all_ne_lineFeed h),
    List.dropWhile_append_of_pos (all_ne_lineFeed h)]
  simp

/-- Bytes are a line, or a line that ends in a line feed and more bytes. -/
theorem line_cases (bytes : Bytes) :
    lineFeed ∉ bytes ∨ ∃ line rest, bytes = line ++ lineFeed :: rest ∧ lineFeed ∉ line := by
  by_cases h : lineFeed ∈ bytes
  · exact .inr (List.eq_append_cons_of_mem h)
  · exact .inl h

theorem countedLines_of_not_mem {stream : Bytes} (h : lineFeed ∉ stream) (maxLine : Nat)
    (ending : Ending) :
    countedLines maxLine stream ending =
      if ending = .closed ∨ maxLine < stream.length then [stream] else [] := by
  simp [countedLines, List.splitOn_eq_singleton h]

theorem countedLines_append_cons {line : Bytes} (h : lineFeed ∉ line) (maxLine : Nat)
    (rest : Bytes) (ending : Ending) :
    countedLines maxLine (line ++ lineFeed :: rest) ending =
      line :: countedLines maxLine rest ending := by
  have hne := List.splitOn_ne_nil lineFeed rest
  simp only [countedLines, List.splitOn_append_cons_self_of_not_mem h]
  rw [List.dropLast_cons_of_ne_nil hne, List.getLastD_cons, List.cons_append]
  obtain ⟨part, parts, hparts⟩ := List.exists_cons_of_ne_nil hne
  simp only [hparts, List.getLastD_cons]

/-! ## One line after the other -/

namespace Connection

/-- The connection after a line that is too long. -/
def refuse (maxLine : Nat) (c : Connection) : Connection :=
  { c with
    exchanges := c.exchanges ++ [⟨none, tooLongReply maxLine⟩]
    pending := []
    isOpen := false }

/-- Deals with one line, of any length. -/
def hear (maxLine : Nat) (c : Connection) (bytes : Bytes) : Connection :=
  if !c.isOpen then c
  else if maxLine < bytes.length then c.refuse maxLine
  else { c with pending := [] }.line bytes

/-- Nothing is kept back and nothing more is read. -/
def shut (c : Connection) : Connection :=
  { c with pending := [], isOpen := false }

theorem hear_of_closed {c : Connection} (hc : c.isOpen = false) (maxLine : Nat) (bytes : Bytes) :
    c.hear maxLine bytes = c := by
  rw [hear, if_pos (by simp [hc])]

theorem hear_of_open {c : Connection} (hc : c.isOpen = true) (maxLine : Nat) (bytes : Bytes) :
    c.hear maxLine bytes =
      if maxLine < bytes.length then c.refuse maxLine else { c with pending := [] }.line bytes := by
  rw [hear, if_neg (by simp [hc])]

theorem drain_of_closed {c : Connection} (hc : c.isOpen = false) (maxLine : Nat) (buffer : Bytes) :
    c.drain maxLine buffer = c := by
  rw [drain, if_pos (by simp [hc])]

theorem drain_of_splitLine {c : Connection} (hc : c.isOpen = true) {buffer bytes : Bytes}
    {rest : Option Bytes} (hs : splitLine buffer = (bytes, rest)) (maxLine : Nat) :
    c.drain maxLine buffer =
      if maxLine < bytes.length then c.refuse maxLine
      else
        match rest with
        | none => { c with pending := bytes }
        | some rest => ({ c with pending := [] }.line bytes).drain maxLine rest := by
  rw [drain, if_neg (by simp [hc])]
  split
  next bytes' rest' hs' =>
    obtain ⟨rfl, rfl⟩ := Prod.mk.inj (hs'.symm.trans hs)
    cases rest' <;> rfl

theorem drain_of_not_mem {c : Connection} (hc : c.isOpen = true) {buffer : Bytes}
    (h : lineFeed ∉ buffer) (maxLine : Nat) :
    c.drain maxLine buffer =
      if maxLine < buffer.length then c.refuse maxLine else { c with pending := buffer } := by
  rw [drain_of_splitLine hc (splitLine_of_not_mem h)]

theorem drain_append_cons {c : Connection} (hc : c.isOpen = true) {line : Bytes}
    (h : lineFeed ∉ line) (maxLine : Nat) (rest : Bytes) :
    c.drain maxLine (line ++ lineFeed :: rest) = (c.hear maxLine line).drain maxLine rest := by
  rw [drain_of_splitLine hc (splitLine_append_cons h rest), hear_of_open hc]
  by_cases hlong : maxLine < line.length
  · rw [if_pos hlong, if_pos hlong, drain_of_closed rfl]
  · rw [if_neg hlong, if_neg hlong]

/-- What was kept back has no part in how a buffer is drained: it is in the buffer. -/
theorem drain_pending {c : Connection} (hc : c.isOpen = true) (maxLine : Nat)
    (kept buffer : Bytes) :
    { c with pending := kept }.drain maxLine buffer = c.drain maxLine buffer := by
  have hc' : { c with pending := kept }.isOpen = true := hc
  rcases line_cases buffer with h | ⟨line, rest, rfl, h⟩
  · rw [drain_of_not_mem hc' h, drain_of_not_mem hc h]
    rfl
  · rw [drain_append_cons hc' h, drain_append_cons hc h, hear_of_open hc', hear_of_open hc]
    rfl

/-! ## Chunks -/

/-- Bytes that arrive later are dealt with as if they had been there at once. -/
theorem receive_drain (maxLine : Nat) (c : Connection) (buffer chunk : Bytes) :
    (c.drain maxLine buffer).receive maxLine chunk = c.drain maxLine (buffer ++ chunk) := by
  induction hn : buffer.length using Nat.strongRecOn generalizing c buffer with
  | ind n ih =>
    by_cases hc : c.isOpen = true
    · rcases line_cases buffer with h | ⟨line, rest, rfl, h⟩
      · by_cases hlong : maxLine < buffer.length
        · rw [drain_of_not_mem hc h, if_pos hlong, receive, drain_of_closed rfl]
          have hlong' : ∀ more : Bytes, maxLine < (buffer ++ more).length := by
            intro more
            rw [List.length_append]
            omega
          rcases line_cases chunk with h' | ⟨line, rest, rfl, h'⟩
          · rw [drain_of_not_mem hc (by simp [h, h']), if_pos (hlong' chunk)]
          · rw [← List.append_assoc, drain_append_cons hc (by simp [h, h']), hear_of_open hc,
              if_pos (hlong' line), drain_of_closed rfl]
        · rw [drain_of_not_mem hc h, if_neg hlong, receive, drain_pending hc]
      · rw [List.append_assoc, List.cons_append, drain_append_cons hc h, drain_append_cons hc h]
        apply ih rest.length _ _ _ rfl
        rw [← hn, List.length_append, List.length_cons]
        omega
    · have hc' : c.isOpen = false := by simpa using hc
      rw [drain_of_closed hc', drain_of_closed hc', receive, drain_of_closed hc']

/-- However a stream is cut into chunks, it is drained as a whole. -/
theorem foldl_receive_drain (maxLine : Nat) (c : Connection) (buffer : Bytes)
    (chunks : List Bytes) :
    chunks.foldl (receive maxLine) (c.drain maxLine buffer) =
      c.drain maxLine (buffer ++ chunks.flatten) := by
  induction chunks generalizing buffer with
  | nil => simp
  | cons chunk chunks ih =>
      rw [List.foldl_cons, receive_drain, ih, List.flatten_cons, List.append_assoc]

/-! ## The end -/

theorem line_pending (c : Connection) (kept bytes : Bytes) :
    { c with pending := kept }.line bytes = { c.line bytes with pending := kept } := by
  rw [line, line]
  split
  · rfl
  · split <;> rfl

theorem shut_of_closed {c : Connection} (hc : c.isOpen = false) (hp : c.pending = []) :
    c.shut = c := by
  rw [shut, ← hc, ← hp]

theorem foldl_hear_of_closed {c : Connection} (hc : c.isOpen = false) (maxLine : Nat)
    (lines : List Bytes) : lines.foldl (hear maxLine) c = c := by
  induction lines with
  | nil => rfl
  | cons line lines ih => rw [List.foldl_cons, hear_of_closed hc, ih]

theorem hear_pending {c : Connection} (hp : c.pending = []) (maxLine : Nat) (bytes : Bytes) :
    (c.hear maxLine bytes).pending = [] := by
  rw [hear]
  split
  · exact hp
  · split
    · rfl
    · rw [line_pending]

/-- A connection that keeps nothing back ends with the lines that count, each heard in turn. -/
theorem finish_drain {c : Connection} (hp : c.pending = []) (maxLine : Nat) (stream : Bytes)
    (ending : Ending) :
    (c.drain maxLine stream).finish ending =
      ((countedLines maxLine stream ending).foldl (hear maxLine) c).shut := by
  induction hn : stream.length using Nat.strongRecOn generalizing c stream with
  | ind n ih =>
    by_cases hc : c.isOpen = true
    · rcases line_cases stream with h | ⟨line, rest, rfl, h⟩
      · rw [drain_of_not_mem hc h, countedLines_of_not_mem h]
        by_cases hlong : maxLine < stream.length
        · rw [if_pos hlong, if_pos (.inr hlong), List.foldl_cons, List.foldl_nil, hear_of_open hc,
            if_pos hlong]
          cases ending <;> rfl
        · cases ending with
          | closed =>
              rw [if_neg hlong, if_pos (.inl rfl), List.foldl_cons, List.foldl_nil,
                hear_of_open hc, if_neg hlong, line_pending, finish, if_pos hc, line_pending]
              rfl
          | idle =>
              rw [if_neg hlong, if_neg (by simp [hlong])]
              rfl
      · rw [drain_append_cons hc h, countedLines_append_cons h, List.foldl_cons]
        apply ih rest.length _ (hear_pending hp maxLine line) _ rfl
        rw [← hn, List.length_append, List.length_cons]
        omega
    · have hc' : c.isOpen = false := by simpa using hc
      rw [drain_of_closed hc', foldl_hear_of_closed hc', shut_of_closed hc' hp]
      cases ending with
      | closed => rw [finish, if_neg hc]
      | idle => exact shut_of_closed hc' hp

/-- A whole connection: the lines that count, each heard in turn. -/
theorem run_eq_foldl_hear (maxLine : Nat) (registry : Registry) (chunks : List Bytes)
    (ending : Ending) :
    run maxLine registry chunks ending =
      ((countedLines maxLine chunks.flatten ending).foldl (hear maxLine) (start registry)).shut := by
  have hstart : start registry = (start registry).drain maxLine [] := by
    rw [drain_of_not_mem rfl (by simp)]
    simp [start]
  calc run maxLine registry chunks ending
      = (chunks.foldl (receive maxLine) ((start registry).drain maxLine [])).finish ending := by
        rw [← hstart, run]
    _ = ((start registry).drain maxLine chunks.flatten).finish ending := by
        rw [foldl_receive_drain, List.nil_append]
    _ = _ := finish_drain rfl maxLine chunks.flatten ending

/-! ## What is heard -/

theorem afterTexts_cons (registry : Registry) (text : List Char) (texts : List (List Char)) :
    afterTexts registry (text :: texts) = afterTexts (exchange registry text).2 texts := by
  rw [exchange]
  cases h : Request.decode text <;> simp [afterTexts, h, Except.toOption]

theorem repliesTo_cons (registry : Registry) (text : List Char) (texts : List (List Char)) :
    repliesTo registry (text :: texts) =
      (exchange registry text).1 :: repliesTo (exchange registry text).2 texts := by
  have hfirst : replyTo registry text = (exchange registry text).1 := by
    rw [replyTo, exchange]
    cases Request.decode text <;> rfl
  rw [repliesTo, List.mapIdx_cons, repliesTo]
  simp only [List.take_succ_cons, afterTexts_cons, ← hfirst]
  rfl

theorem hear_of_endsAt {c : Connection} (hc : c.isOpen = true) {maxLine : Nat} {bytes : Bytes}
    (h : endsAt maxLine bytes = true) :
    c.hear maxLine bytes =
      { c with
        exchanges := c.exchanges ++ lastWord maxLine (some bytes)
        pending := []
        isOpen := false } := by
  rw [hear_of_open hc, lastWord]
  by_cases hlong : maxLine < bytes.length
  · rw [if_pos hlong, if_pos hlong, refuse]
  · rw [if_neg hlong, if_neg hlong, List.append_nil, line]
    have hdecode : Text.Utf8.decode (dropReturn bytes) = none := by
      simpa [endsAt, hlong] using h
    rw [hdecode]

theorem of_not_endsAt {maxLine : Nat} {bytes : Bytes} (h : endsAt maxLine bytes = false) :
    ¬ maxLine < bytes.length ∧ ∃ text, Text.Utf8.decode (dropReturn bytes) = some text := by
  rw [endsAt, Bool.or_eq_false_iff, decide_eq_false_iff_not] at h
  exact ⟨h.1, by simpa [Option.isSome_iff_exists] using h.2⟩

/-- A text that is not blank is answered, and any other passes by. -/
theorem hear_of_decode {c : Connection} (hc : c.isOpen = true) (hp : c.pending = [])
    {maxLine : Nat} {bytes : Bytes} {text : List Char} (hshort : ¬ maxLine < bytes.length)
    (htext : Text.Utf8.decode (dropReturn bytes) = some text) :
    c.hear maxLine bytes =
      if Text.allBlank text then c
      else
        { c with
          registry := (exchange c.registry text).2
          exchanges := c.exchanges ++ [(exchange c.registry text).1] } := by
  rw [hear_of_open hc, if_neg hshort, ← hp, line, htext]

/-- Lines heard one after the other, up to the one that ends the connection. -/
theorem foldl_hear {c : Connection} (hc : c.isOpen = true) (hp : c.pending = []) (maxLine : Nat)
    (lines : List Bytes) :
    (lines.foldl (hear maxLine) c).shut =
      { registry := afterTexts c.registry
          (spokenTexts (lines.takeWhile fun line => !endsAt maxLine line))
        exchanges := c.exchanges ++
          (repliesTo c.registry (spokenTexts (lines.takeWhile fun line => !endsAt maxLine line)) ++
            lastWord maxLine (lines.find? (endsAt maxLine)))
        pending := []
        isOpen := false } := by
  induction lines generalizing c with
  | nil => simp [shut, spokenTexts, afterTexts, repliesTo, lastWord]
  | cons bytes lines ih =>
      rw [List.foldl_cons]
      cases hend : endsAt maxLine bytes with
      | true =>
          rw [hear_of_endsAt hc hend, foldl_hear_of_closed rfl,
            List.takeWhile_cons_of_neg (by simp [hend]), List.find?_cons_of_pos hend]
          simp [shut, spokenTexts, afterTexts, repliesTo]
      | false =>
          obtain ⟨hshort, text, htext⟩ := of_not_endsAt hend
          rw [List.takeWhile_cons_of_pos (by simp [hend]), List.find?_cons_of_neg (by simp [hend]),
            hear_of_decode hc hp hshort htext]
          by_cases hblank : Text.allBlank text = true
          · rw [if_pos hblank, ih hc hp]
            simp [spokenTexts, htext, hblank]
          · have hspoken : ∀ more : List Bytes,
                spokenTexts (bytes :: more) = text :: spokenTexts more := by
              intro more
              simp [spokenTexts, htext, hblank]
            rw [if_neg hblank, ih (by exact hc) (by exact hp), hspoken, afterTexts_cons,
              repliesTo_cons]
            simp

/-- What the server makes of a connection is the reading of all that was sent on it.  Neither the
borders of the chunks nor anything behind the line that ends the connection has a part in it. -/
theorem run_eq_reading (maxLine : Nat) (registry : Registry) (chunks : List Bytes)
    (ending : Ending) :
    run maxLine registry chunks ending = reading maxLine registry chunks.flatten ending := by
  rw [run_eq_foldl_hear, foldl_hear rfl rfl]
  simp [reading, start]

end Connection

end MeshRegistry.Channel
