import MeshRegistry.Proofs.Json.Cut
import MeshRegistry.Registration.Reply
import MeshRegistry.Registration.Request

/-!
# Requests and replies as messages

A request and a reply are read back from the text they are written as, and nothing is read from a part of
that text that lacks its end.
-/

namespace MeshRegistry

open Json (Decoder)
open Text (CutShort)

theorem Action.ofWord_word (a : Action) : ofWord a.word = a := by
  cases a <;> decide

theorem Request.spelled (q : Request) :
    Request.fields.Spelled
      [("frontend_addr", .text q.frontendAddr), ("frontend_port", .int q.frontendPort.toNat),
        ("backend_addr", .text q.backendAddr), ("backend_port", .int q.backendPort.toNat),
        ("service_name", .text q.service), ("environment_name", .text q.environment),
        ("proxy_mode", .text q.mode), ("action", .text q.action.word)]
      (q.frontendAddr, q.frontendPort, q.backendAddr, q.backendPort, q.service, q.environment, q.mode,
        q.action, ()) := by
  have haction : (Json.text.map Action.ofWord).Takes (Json.Value.text q.action.word).write q.action := by
    have h := (Json.text_takes q.action.word).map Action.ofWord
    rwa [Action.ofWord_word] at h
  exact
    .present (Json.text_takes _) <| .present (Json.word16_takes _) <|
    .present (Json.text_takes _) <| .present (Json.word16_takes _) <|
    .present (Json.text_takes _) <| .present (Json.text_takes _) <|
    .present (Json.text_takes _) <| .present haction .nil

theorem Request.decoder_takes (q : Request) : Request.decoder.Takes q.toJson.write q :=
  Json.record_takes (by decide) q.spelled _ _

/-- Every request is read back from its message. -/
theorem Request.decode_toJson (q : Request) : Request.decode q.toJson.write = .ok q :=
  Json.decodeAll_of_takes q.decoder_takes

/-- Nothing is read from a request that is cut short. -/
theorem Request.decode_short {q : Request} {p : List Char} (h : CutShort p q.toJson.write) :
    ∃ e, Request.decode p = .error e := by
  refine Json.decodeAll_error (Json.record_short (by decide) q.spelled ?_ _ _ h)
  have htext : ∀ s, Json.text.Wants (Json.Value.text s).write := Json.text_wants
  have hport : ∀ n : Port, Json.word16.Wants (Json.Value.int n.toNat).write :=
    fun n => Json.number_wants _ _ n.toNat
  simp [Request.fields, Json.Fields.Wants, htext, hport, (htext _).map]

theorem Reply.spelled (r : Reply) :
    Reply.fields.Spelled
      (("status_code", .int r.status.toInt) :: r.error.toList.map fun e => ("error", .text e))
      (r.status, r.error, ()) := by
  obtain ⟨status, error⟩ := r
  have hstatus := Json.int32_takes status
  cases error with
  | none => exact .present hstatus (.absent rfl .nil)
  | some e =>
      have herror := Json.optional_takes Json.Value.noConfusion (Json.text_takes e)
      exact .present hstatus (.present herror .nil)

theorem Reply.decoder_takes (r : Reply) : Reply.decoder.Takes r.toJson.write r :=
  Json.record_takes (by decide) r.spelled _ _

/-- Every reply is read back from its message. -/
theorem Reply.decode_toJson (r : Reply) : Reply.decode r.toJson.write = .ok r :=
  Json.decodeAll_of_takes r.decoder_takes

/-- Nothing is read from a reply that is cut short. -/
theorem Reply.decode_short {r : Reply} {p : List Char} (h : CutShort p r.toJson.write) :
    ∃ e, Reply.decode p = .error e := by
  refine Json.decodeAll_error (Json.record_short (by decide) r.spelled ?_ _ _ h)
  have hstatus : Json.int32.Wants (Json.Value.int r.status.toInt).write :=
    Json.number_wants _ _ r.status.toInt
  have herror : ∀ e, (Json.optional Json.text).Wants (Json.Value.text e).write :=
    fun e => Json.optional_wants Json.Value.noConfusion (Json.text_wants e)
  simp [Reply.fields, Json.Fields.Wants, hstatus, herror]

end MeshRegistry
