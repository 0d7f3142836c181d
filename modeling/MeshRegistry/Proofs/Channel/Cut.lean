import MeshRegistry.Proofs.Channel.Calls

/-!
# Messages that are cut short

Both ends of the channel take what was sent before the other side closed for a line, whether a line feed
ends it or not.  A message of which the end is missing is not taken for a message all the same: the
registry stays as it is, and a caller hears of neither success nor refusal.
-/

namespace MeshRegistry.Channel

open Text (Bytes CutShort)
open Text.Utf8 (EndsInside)
open Json (NoControls Value noControls_write)

section Line

variable {v : Value} {p : Bytes} (h : CutShort p (Text.Utf8.encode v.write))

include h

theorem lineFeed_not_mem_of_cutShort : lineFeed ∉ p := by
  obtain ⟨missing, -, happend⟩ := h
  have hnone := lineFeed_not_mem_encode (noControls_write v)
  rw [← happend] at hnone
  exact fun hmem => hnone (List.mem_append_left missing hmem)

theorem dropReturn_of_cutShort : dropReturn p = p := by
  obtain ⟨missing, -, happend⟩ := h
  rw [dropReturn, if_neg]
  intro hlast
  have hmem : carriageReturn ∈ p ++ missing := List.mem_append_left missing (List.mem_of_getLast? hlast)
  rw [happend] at hmem
  exact ne_of_mem_encode (noControls_write v) (by decide) hmem rfl

end Line

/-! ## Requests -/

/-- A line that holds no request is answered with a refusal, if it is answered. -/
theorem exchange_of_decode_error (r : Registry) {text : List Char} {e : Json.Problem}
    (h : Request.decode text = .error e) : exchange r text = (⟨none, malformedReply e⟩, r) := by
  rw [exchange, h]

/-- What a registry makes of a request that is cut short. -/
theorem hear_of_cutShort {c : Connection} (hc : c.isOpen = true) (hpending : c.pending = [])
    (maxLine : Nat) {q : Request} {p : Bytes} (hp : CutShort p (Text.Utf8.encode q.toJson.write)) :
    ∃ replies : List Reply, (∀ reply ∈ replies, reply.isSuccess = false) ∧
      (c.hear maxLine p).registry = c.registry ∧
      (c.hear maxLine p).exchanges = c.exchanges ++ replies.map (⟨none, ·⟩) := by
  by_cases hlong : maxLine < p.length
  · refine ⟨[tooLongReply maxLine], ?_, ?_⟩
    · simp [tooLongReply, Reply.failed, Reply.isSuccess, Reply.statusFailed, Reply.statusOk]
    · rw [Connection.hear_of_open hc, if_pos hlong]
      exact ⟨rfl, rfl⟩
  obtain hinside | ⟨text, htext, rfl⟩ := Text.Utf8.endsInside_or_of_cutShort hp
  · have hdecode : Text.Utf8.decode (dropReturn p) = none := by
      rw [dropReturn_of_cutShort hp, hinside.decode_eq]
    refine ⟨[], by simp, ?_⟩
    rw [Connection.hear_of_open hc, if_neg hlong, Connection.line, hdecode]
    exact ⟨rfl, (List.append_nil _).symm⟩
  · have hdecode : Text.Utf8.decode (dropReturn (Text.Utf8.encode text)) = some text := by
      rw [dropReturn_of_cutShort hp, Text.Utf8.decode_encode]
    rw [Connection.hear_of_decode hc hpending hlong hdecode]
    by_cases hblank : Text.allBlank text = true
    · rw [if_pos hblank]
      exact ⟨[], by simp, rfl, (List.append_nil _).symm⟩
    · obtain ⟨e, he⟩ := Request.decode_short htext
      rw [if_neg hblank, exchange_of_decode_error c.registry he]
      refine ⟨[malformedReply e], ?_, rfl, rfl⟩
      simp [malformedReply, Reply.failed, Reply.isSuccess, Reply.statusFailed, Reply.statusOk]

theorem run_of_cutShort (maxLine : Nat) (r : Registry) {q : Request} {chunks : List Bytes}
    (hchunks : CutShort chunks.flatten (Text.Utf8.encode q.toJson.write)) (ending : Ending) :
    (Connection.run maxLine r chunks ending).registry = r ∧
      ∀ e ∈ (Connection.run maxLine r chunks ending).exchanges,
        e.request = none ∧ e.reply.isSuccess = false := by
  rw [Connection.run_eq_foldl_hear,
    countedLines_of_not_mem (lineFeed_not_mem_of_cutShort hchunks)]
  split
  · obtain ⟨replies, hreplies, hregistry, hexchanges⟩ :=
      hear_of_cutShort (c := .start r) rfl rfl maxLine hchunks
    refine ⟨hregistry, fun e he => ?_⟩
    have hmem : e ∈ ((Connection.start r).hear maxLine chunks.flatten).exchanges := he
    rw [hexchanges] at hmem
    obtain ⟨reply, hreply, rfl⟩ := List.mem_map.1 hmem
    exact ⟨rfl, hreplies reply hreply⟩
  · exact ⟨rfl, fun e he => by cases he⟩

/-! ## Replies -/

theorem trimEnd_isPrefix (s : List Char) : Text.trimEnd s <+: s := by
  have hsuffix := List.dropWhile_suffix (l := s.reverse) Text.isBlank
  rw [← List.reverse_prefix, List.reverse_reverse] at hsuffix
  exact hsuffix

section Reply

variable {reply : Reply} {p : Bytes}

theorem readReply_of_endsInside (hp : CutShort p (Text.Utf8.encode reply.toJson.write))
    (hinside : EndsInside p reply.toJson.write) : readReply p = .error (.broken .notUtf8) := by
  have hne : p.isEmpty = false := by
    rw [Bool.eq_false_iff, ne_eq, List.isEmpty_iff]
    exact hinside.ne_nil
  rw [readReply, splitLine_of_not_mem (lineFeed_not_mem_of_cutShort hp)]
  simp [hne, hinside.decode_eq]

theorem readReply_of_cutShort (hp : CutShort p (Text.Utf8.encode reply.toJson.write))
    (hne : p ≠ []) (hbetween : ¬ EndsInside p reply.toJson.write) :
    ∃ problem, readReply p = .error (.malformed problem) := by
  obtain hinside | ⟨text, htext, rfl⟩ := Text.Utf8.endsInside_or_of_cutShort hp
  · exact absurd hinside hbetween
  obtain ⟨problem, hproblem⟩ := Reply.decode_short (htext.of_isPrefix (trimEnd_isPrefix text))
  refine ⟨problem, ?_⟩
  have hempty : (Text.Utf8.encode text).isEmpty = false := by
    rw [Bool.eq_false_iff, ne_eq, List.isEmpty_iff]
    exact hne
  rw [readReply, splitLine_of_not_mem (lineFeed_not_mem_of_cutShort hp)]
  simp [hempty, Text.Utf8.decode_encode, hproblem]

end Reply

theorem attempt_scripted (c : Caller) (q : Request) (p : Bytes) (later : List Behaviour) (n : Nat)
    (arrived : List Request) :
    (c.attempt q ⟨.scripted (.send p) later, n, arrived⟩).1 = readReply p >>= accepted := rfl

/-- A message that is cut short is never taken for a message, by a registry or by a caller. -/
theorem cutShort_refused :
    (∀ (maxLine : Nat) (r : Registry) (q : Request) (chunks : List Bytes),
      CutShort chunks.flatten (Text.Utf8.encode q.toJson.write) →
        (Connection.run maxLine r chunks .closed).registry = r ∧
          ∀ e ∈ (Connection.run maxLine r chunks .closed).exchanges, e.reply.isSuccess = false) ∧
      ∀ (c : Caller) (q : Request) (reply : Reply) (p : Bytes) (later : List Behaviour) (n : Nat)
          (arrived : List Request),
        CutShort p (Text.Utf8.encode reply.toJson.write) →
          let result := (c.attempt q ⟨.scripted (.send p) later, n, arrived⟩).1
          (p = [] → result = .error .closed) ∧
            (EndsInside p reply.toJson.write → result = .error (.broken .notUtf8)) ∧
            (p ≠ [] → ¬ EndsInside p reply.toJson.write →
              ∃ problem, result = .error (.malformed problem)) := by
  constructor
  · intro maxLine r q chunks hchunks
    obtain ⟨hregistry, hexchanges⟩ := run_of_cutShort maxLine r hchunks .closed
    exact ⟨hregistry, fun e he => (hexchanges e he).2⟩
  · intro c q reply p later n arrived hp
    rw [attempt_scripted]
    refine ⟨?_, ?_, ?_⟩
    · rintro rfl
      rfl
    · intro hinside
      rw [readReply_of_endsInside hp hinside]
      rfl
    · intro hne hbetween
      obtain ⟨problem, hproblem⟩ := readReply_of_cutShort hp hne hbetween
      exact ⟨problem, by rw [hproblem]; rfl⟩

/-- A removal for a service whose name has to be escaped. -/
def quotedRemoval : Request :=
  { frontendAddr := "", frontendPort := 8080, backendAddr := "", backendPort := 0,
    service := "\"é\t", environment := "dev", mode := "", action := .deregister }

/-- A refusal up to the quote in front of its reason. -/
def reasonlessRefusal : List Char :=
  "\x7b\"status_code\":0,\"error\":\"".toList

theorem cutShort_refused_unclosed :
    (Connection.run standardMaxLine .empty
        [(Text.Utf8.encode quotedRemoval.toJson.write).dropLast] .closed).registry = .empty ∧
      (∃ problem, ((Caller.mk "/tmp/registry.sock" standardDeadline).attempt quotedRemoval
        ⟨.scripted (.send (Text.Utf8.encode reasonlessRefusal)) [], 0, []⟩).1 =
          .error (.malformed problem)) ∧
      ((Caller.mk "/tmp/registry.sock" standardDeadline).attempt quotedRemoval
        ⟨.scripted (.send (Text.Utf8.encode reasonlessRefusal ++ [0xC3])) [], 0, []⟩).1 =
          .error (.broken .notUtf8) := by
  have hremoval : CutShort [(Text.Utf8.encode quotedRemoval.toJson.write).dropLast].flatten
      (Text.Utf8.encode quotedRemoval.toJson.write) :=
    ⟨Text.Utf8.encode ['\x7d'], by decide, by decide +kernel⟩
  have hreasonless : CutShort (Text.Utf8.encode reasonlessRefusal)
      (Text.Utf8.encode (Reply.failed "é").toJson.write) :=
    ⟨Text.Utf8.encode "é\"\x7d".toList, by decide, by decide +kernel⟩
  have hbroken : CutShort (Text.Utf8.encode reasonlessRefusal ++ [0xC3])
      (Text.Utf8.encode (Reply.failed "é").toJson.write) :=
    ⟨0xA9 :: Text.Utf8.encode "\"\x7d".toList, by decide, by decide +kernel⟩
  have hinside : EndsInside (Text.Utf8.encode reasonlessRefusal ++ [0xC3])
      (Reply.failed "é").toJson.write :=
    ⟨reasonlessRefusal, 'é', "\"\x7d".toList, [0xC3], by decide +kernel, by decide,
      ⟨[0xA9], by decide, by decide +kernel⟩, rfl⟩
  refine ⟨(cutShort_refused.1 _ _ _ _ hremoval).1, ?_, ?_⟩
  · exact (cutShort_refused.2 _ _ _ _ _ _ _ hreasonless).2.2 (by decide)
      (Text.Utf8.not_endsInside_encode _ _)
  · exact (cutShort_refused.2 _ _ _ _ _ _ _ hbroken).2.1 hinside

end MeshRegistry.Channel
