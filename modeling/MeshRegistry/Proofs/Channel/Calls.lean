import Mathlib.Data.List.Forall2
import MeshRegistry.Channel.Peer
import MeshRegistry.Proofs.Channel.Stream
import MeshRegistry.Proofs.Registration.History
import MeshRegistry.Proofs.Registration.Messages
import MeshRegistry.Proofs.Text.Blank
import MeshRegistry.Proofs.Text.Utf8

/-!
# Calls that a registry answers

A request that fits into a line reaches the registry as it is, and the reply comes back as it is.
Neither success nor refusal is tried again, so calls made one after another do to the registry what
its own handling of the requests does, and tell the caller what that says.
-/

namespace MeshRegistry.RetryPolicy

/-- An attempt that settles the matter is the only one. -/
theorem run_of_settled {σ ε α : Type} {p : RetryPolicy} {isRetryable : ε → Bool}
    {operation : Nat → σ → Except ε α × σ} {sleep : Nat → σ → σ} {s t : σ} {result : Except ε α}
    (h : operation 1 s = (result, t)) (hsettled : ∀ e, result = .error e → isRetryable e = false) :
    p.run isRetryable operation sleep s = (result, t) := by
  rw [run, runFrom, h]
  cases result with
  | ok a => rfl
  | error e =>
      have hstop : p.shouldRetry 1 (isRetryable e) = false := by
        rw [hsettled e rfl, shouldRetry, Bool.and_false]
      simp [hstop]

end MeshRegistry.RetryPolicy

namespace MeshRegistry.Channel

open Text (Bytes)
open Json (NoControls Value noControls_write)

/-! ## Messages as lines -/

theorem ne_of_mem_encode {s : List Char} (hs : NoControls s) {b c : UInt8} (hc : c.toNat < 0x20)
    (hb : b ∈ Text.Utf8.encode s) : b ≠ c := by
  have hle := Text.Utf8.le_of_mem_encode hs hb
  rintro rfl
  omega

theorem lineFeed_not_mem_encode {s : List Char} (hs : NoControls s) :
    lineFeed ∉ Text.Utf8.encode s :=
  fun h => ne_of_mem_encode hs (by decide) h rfl

theorem dropReturn_encode {s : List Char} (hs : NoControls s) :
    dropReturn (Text.Utf8.encode s) = Text.Utf8.encode s := by
  rw [dropReturn, if_neg]
  intro hlast
  exact ne_of_mem_encode hs (by decide) (List.mem_of_getLast? hlast) rfl

theorem allBlank_write_object (ms : List (String × Value)) :
    Text.allBlank (Value.object ms).write = false := by
  rw [Value.write, List.cons_append, Text.allBlank, List.all_cons]
  rfl

theorem trimEnd_write_object (ms : List (String × Value)) :
    Text.trimEnd (Value.object ms).write = (Value.object ms).write := by
  rw [Value.write]
  exact Text.trimEnd_concat (by decide) _

/-! ## The two ends of a call -/

theorem exchange_toJson (r : Registry) (q : Request) :
    exchange r q.toJson.write = (⟨some q, q.reply⟩, r.after q) := by
  have hanswer := r.answer_eq q
  unfold exchange
  rw [Request.decode_toJson]
  simp only [hanswer]

theorem hear_nil {c : Connection} (hc : c.isOpen = true) (hp : c.pending = []) (maxLine : Nat) :
    c.hear maxLine [] = c := by
  have htext : Text.Utf8.decode (dropReturn []) = some [] := Text.Utf8.decode_encode []
  rw [Connection.hear_of_decode hc hp (Nat.not_lt_zero maxLine) htext]
  rfl

theorem countedLines_requestLine (maxLine : Nat) (q : Request) (ending : Ending) :
    countedLines maxLine (requestLine q) ending =
      Text.Utf8.encode q.toJson.write :: countedLines maxLine [] ending :=
  countedLines_append_cons (lineFeed_not_mem_encode (noControls_write _)) maxLine [] ending

/-- The registry carries out a request that fits into a line, however the line arrives. -/
theorem run_requestLine {maxLine : Nat} {q : Request}
    (hq : (Text.Utf8.encode q.toJson.write).length ≤ maxLine) (r : Registry)
    {chunks : List Bytes} (hchunks : chunks.flatten = requestLine q) (ending : Ending) :
    Connection.run maxLine r chunks ending =
      { registry := r.after q
        exchanges := [⟨some q, q.reply⟩]
        pending := []
        isOpen := false } := by
  have htext : Text.Utf8.decode (dropReturn (Text.Utf8.encode q.toJson.write)) =
      some q.toJson.write := by
    rw [dropReturn_encode (noControls_write _), Text.Utf8.decode_encode]
  have hspoken : Text.allBlank q.toJson.write = false := allBlank_write_object _
  have hheard : (Connection.start r).hear maxLine (Text.Utf8.encode q.toJson.write) =
      ⟨r.after q, [⟨some q, q.reply⟩], [], true⟩ := by
    rw [Connection.hear_of_decode rfl rfl (Nat.not_lt.2 hq) htext, hspoken, exchange_toJson]
    rfl
  have hrest : ∀ c : Connection, c.isOpen = true → c.pending = [] →
      (countedLines maxLine [] ending).foldl (Connection.hear maxLine) c = c := by
    intro c hc hp
    cases ending with
    | idle => rfl
    | closed => exact hear_nil hc hp maxLine
  rw [Connection.run_eq_foldl_hear, hchunks, countedLines_requestLine, List.foldl_cons, hheard,
    hrest _ rfl rfl]
  rfl

/-- A request that does not fit is not carried out. -/
theorem run_requestLine_of_long {maxLine : Nat} {q : Request}
    (hq : maxLine < (Text.Utf8.encode q.toJson.write).length) (r : Registry)
    {chunks : List Bytes} (hchunks : chunks.flatten = requestLine q) (ending : Ending) :
    Connection.run maxLine r chunks ending =
      { registry := r
        exchanges := [⟨none, tooLongReply maxLine⟩]
        pending := []
        isOpen := false } := by
  have hheard : (Connection.start r).hear maxLine (Text.Utf8.encode q.toJson.write) =
      (Connection.start r).refuse maxLine := by
    rw [Connection.hear_of_open rfl, if_pos hq]
  rw [Connection.run_eq_foldl_hear, hchunks, countedLines_requestLine, List.foldl_cons, hheard,
    Connection.foldl_hear_of_closed rfl]
  rfl

/-- The caller reads the reply that was sent, and no more. -/
theorem readReply_encode (reply : Reply) (more : Bytes) :
    readReply (Text.Utf8.encode reply.toJson.write ++ lineFeed :: more) = .ok reply := by
  have hcontrols : NoControls reply.toJson.write := noControls_write _
  have htrim : Text.trimEnd reply.toJson.write = reply.toJson.write := trimEnd_write_object _
  rw [readReply, splitLine_append_cons (lineFeed_not_mem_encode hcontrols)]
  simp [Text.Utf8.decode_encode, htrim, Reply.decode_toJson]

/-! ## Attempts -/

/-- What a caller makes of the reply to a request. -/
theorem accepted_reply (q : Request) :
    accepted q.reply = match q.outcome with
      | .ok _ => .ok .ok
      | .error e => .error (.rejected e.message) := by
  rw [Request.reply]
  cases q.outcome <;> rfl

theorem isRetryable_of_accepted_reply {q : Request} {e : CallError}
    (h : accepted q.reply = .error e) : e.isRetryable = false := by
  rw [accepted_reply] at h
  cases ho : q.outcome with
  | ok _ => rw [ho] at h; cases h
  | error _ => rw [ho] at h; cases h; rfl

/-- A request fits when the line that carries it is not too long for the registry. -/
def Fits (q : Request) : Prop :=
  (Text.Utf8.encode q.toJson.write).length ≤ standardMaxLine

instance (q : Request) : Decidable (Fits q) := inferInstanceAs (Decidable (_ ≤ _))

/-- What a caller makes of the one reply that was sent to it. -/
theorem outcome_sent (caller : Caller) {c : Connection} {e : Exchange} (he : c.exchanges = [e]) :
    caller.outcome (.bytes c.sent) = accepted e.reply := by
  have hread : readReply (Text.Utf8.encode e.reply.toJson.write ++ [lineFeed]) = .ok e.reply :=
    readReply_encode e.reply []
  simp [Caller.outcome, Connection.sent, he, hread, bind, Except.bind]

theorem attempt_registry (c : Caller) {q : Request} (hq : Fits q) (r : Registry) (n : Nat)
    (arrived : List Request) :
    c.attempt q ⟨.registry r, n, arrived⟩ =
      (accepted q.reply, ⟨.registry (r.after q), n + 1, arrived ++ [q]⟩) := by
  have hline : [requestLine q].flatten = requestLine q := List.flatten_singleton
  have hrun := run_requestLine hq r hline .closed
  rw [Caller.attempt, Peer.call, hrun]
  dsimp only
  rw [outcome_sent c rfl]
  rfl

theorem register_registry (c : Caller) (policy : RetryPolicy) {q : Request} (hq : Fits q)
    (r : Registry) (n : Nat) (arrived : List Request) :
    c.register policy q ⟨.registry r, n, arrived⟩ =
      (accepted q.reply, ⟨.registry (r.after q), n + 1, arrived ++ [q]⟩) :=
  RetryPolicy.run_of_settled (attempt_registry c hq r n arrived) fun _ => isRetryable_of_accepted_reply

/-! ## What a request does to a registry, whether it fits or not -/

/-- A request takes effect when it fits and is accepted. -/
def TakesEffect (q : Request) : Prop :=
  Fits q ∧ q.Accepted

instance (q : Request) : Decidable (TakesEffect q) := inferInstanceAs (Decidable (_ ∧ _))

section

variable {q : Request} {chunks : List Bytes} (hchunks : chunks.flatten = requestLine q)
  (ending : Ending) (r : Registry)

include hchunks

/-- A request that takes effect settles what is stored under its key; any other changes nothing. -/
theorem get?_run_requestLine (k : String) :
    (Connection.run standardMaxLine r chunks ending).registry.get? k =
      if TakesEffect q ∧ q.key.text = k then q.stored? else r.get? k := by
  by_cases hfits : Fits q
  · rw [run_requestLine hfits r hchunks ending]
    by_cases haccepted : q.Accepted
    · simp [Registry.get?_after_of_accepted haccepted, TakesEffect, hfits, haccepted]
    · simp [Registry.after_of_not_accepted haccepted, TakesEffect, haccepted]
  · rw [run_requestLine_of_long (Nat.lt_of_not_le hfits) r hchunks ending]
    simp [TakesEffect, hfits]

theorem outcome_of_takesEffect (h : TakesEffect q) (c : Caller) :
    c.outcome (.bytes (Connection.run standardMaxLine r chunks ending).sent) = .ok .ok := by
  obtain ⟨key, hkey⟩ := Request.exists_outcome_iff.2 h.2
  rw [run_requestLine h.1 r hchunks ending, outcome_sent c rfl, accepted_reply, hkey]

/-- A caller does not hear of success unless the request took effect. -/
theorem takesEffect_of_outcome {c : Caller} {reply : Reply}
    (h : c.outcome (.bytes (Connection.run standardMaxLine r chunks ending).sent) = .ok reply) :
    TakesEffect q := by
  by_cases hfits : Fits q
  · rw [run_requestLine hfits r hchunks ending, outcome_sent c rfl, accepted_reply] at h
    refine ⟨hfits, Request.exists_outcome_iff.1 ?_⟩
    cases houtcome : q.outcome with
    | ok key => exact ⟨key, rfl⟩
    | error e =>
        rw [houtcome] at h
        cases h
  · rw [run_requestLine_of_long (Nat.lt_of_not_le hfits) r hchunks ending, outcome_sent c rfl] at h
    cases h

end

/-! ## Calls made one after another -/

/-- A call as the caller sees it: how it came out, and how many attempts it took. -/
structure Call where
  outcome : Except CallError Reply
  attempts : Nat

/-- Calls made one after another, each as often as a policy allows. -/
def Caller.registerAll (c : Caller) (policy : RetryPolicy) : List Request → Line → List Call × Line
  | [], l => ([], l)
  | q :: rest, l =>
    let (outcome, after) := c.register policy q l
    let (calls, last) := c.registerAll policy rest after
    (⟨outcome, after.attempts - l.attempts⟩ :: calls, last)

/-- A call took one attempt and came out as a reply says: with that reply if it reports success, and
otherwise refused, for the reason that it gives. -/
structure Call.Conveys (call : Call) (reply : Reply) : Prop where
  attempts_eq : call.attempts = 1
  exists_ok_iff : (∃ got, call.outcome = .ok got ∧ got.status = 1) ↔ reply.isSuccess = true
  eq_of_ok : ∀ got, call.outcome = .ok got → got = reply
  rejected : reply.isSuccess = false →
    ∃ reason, reply.error = some reason ∧ call.outcome = .error (.rejected reason)

theorem conveys_accepted_reply (q : Request) : Call.Conveys ⟨accepted q.reply, 1⟩ q.reply := by
  have haccepted := accepted_reply q
  cases ho : q.outcome with
  | ok key =>
      have hreply : q.reply = .ok := by rw [Request.reply, ho]
      rw [ho] at haccepted
      rw [haccepted, hreply]
      refine ⟨rfl, ⟨fun _ => rfl, fun _ => ⟨.ok, rfl, rfl⟩⟩, ?_, ?_⟩
      · intro got hgot
        exact (Except.ok.inj hgot).symm
      · intro hfailed
        cases hfailed
  | error e =>
      have hreply : q.reply = .failed e.message := by rw [Request.reply, ho]
      rw [ho] at haccepted
      rw [haccepted, hreply]
      refine ⟨rfl, ⟨?_, ?_⟩, ?_, fun _ => ⟨e.message, rfl, rfl⟩⟩
      · rintro ⟨got, hgot, -⟩
        cases hgot
      · intro hsuccess
        cases hsuccess
      · intro got hgot
        cases hgot

/-- Calls that a registry answers convey its own replies to the requests, and leave it as it is once it
has handled them: every request arrives as it is, and once. -/
theorem Caller.registerAll_registry (c : Caller) (policy : RetryPolicy) (turns : List Turn)
    (hfits : ∀ t ∈ turns, Fits t.request) (r : Registry) (n : Nat) (arrived : List Request) :
    List.Forall₂ Call.Conveys
        (c.registerAll policy (turns.map Turn.request) ⟨.registry r, n, arrived⟩).1
        (r.handleAll turns).1 ∧
      (c.registerAll policy (turns.map Turn.request) ⟨.registry r, n, arrived⟩).2 =
        ⟨.registry (r.handleAll turns).2, n + turns.length, arrived ++ turns.map Turn.request⟩ := by
  induction turns generalizing r n arrived with
  | nil => exact ⟨.nil, by simp [registerAll, Registry.handleAll]⟩
  | cons t rest ih =>
      have hcall := register_registry c policy (hfits t List.mem_cons_self) r n arrived
      obtain ⟨hcalls, hline⟩ := ih (fun t' ht' => hfits t' (List.mem_cons_of_mem t ht'))
        (r.after t.request) (n + 1) (arrived ++ [t.request])
      rw [List.map_cons, registerAll, hcall, Registry.handleAll, Registry.handle_result,
        Registry.handle_registry]
      refine ⟨.cons ?_ hcalls, ?_⟩
      · rw [Nat.add_sub_cancel_left]
        exact conveys_accepted_reply t.request
      · rw [hline, List.length_cons, List.append_assoc, List.singleton_append, Nat.add_assoc,
          Nat.add_comm 1]

/-- A service whose name has to be escaped, and then the same for a mode that there is not. -/
def awkwardTurns : List Turn :=
  let q : Request :=
    { frontendAddr := "127.0.0.1", frontendPort := 8080, backendAddr := "::1", backendPort := 80,
      service := "\"a\\\n\x00é", environment := "dev", mode := "TCP", action := .register }
  [⟨q, .off, .whole⟩, ⟨{ q with mode := "\nquic" }, .off, .whole⟩]

/-- Both calls take one attempt, and the second is refused. -/
theorem registerAll_awkwardTurns :
    (∀ t ∈ awkwardTurns, Fits t.request) ∧
      (awkwardTurns.map fun t => t.request.reply.isSuccess) = [true, false] ∧
      ((Caller.mk "/tmp/registry.sock" standardDeadline).registerAll .standard
        (awkwardTurns.map Turn.request) ⟨.registry .empty, 0, []⟩).2.attempts = 2 := by
  have hfits : ∀ t ∈ awkwardTurns, Fits t.request := by
    unfold Fits
    decide +kernel
  refine ⟨hfits, by decide, ?_⟩
  rw [(Caller.registerAll_registry _ .standard awkwardTurns hfits .empty 0 []).2]
  rfl

end MeshRegistry.Channel
