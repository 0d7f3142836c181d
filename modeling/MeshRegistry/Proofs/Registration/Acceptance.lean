import MeshRegistry.Registration.Registrar
import MeshRegistry.Proofs.Text.Blank

/-!
# What one request does

A request is accepted or refused by its own text: neither the registry nor the log has a part in the
reply.  An accepted request changes what is stored under its own key and nothing else, and a refused
one changes nothing.  Registering derives its key from the stored endpoint and deregistering from the
request; `key_of_toEndpoint` says that the two agree.
-/

namespace MeshRegistry

/-! ## Which requests are accepted -/

namespace ProxyMode

/-- Does a text name a mode?  Blanks alone do, and the case of its letters does not matter. -/
def IsNamedBy (s : String) : Prop :=
  Text.allBlank s.toList = true ∨
    Text.lowerAscii (Text.trim s.toList) = "http".toList ∨
    Text.lowerAscii (Text.trim s.toList) = "tcp".toList

instance (s : String) : Decidable (IsNamedBy s) := inferInstanceAs (Decidable (_ ∨ _ ∨ _))

theorem parse_of_isNamedBy {s : String} (h : IsNamedBy s) : ∃ m, parse s = .ok m := by
  rcases h with h | h | h
  · rw [← Text.trim_eq_nil_iff] at h
    exact ⟨http, by simp [parse, h, Text.lowerAscii]⟩
  · exact ⟨http, by simp [parse, h]⟩
  · exact ⟨tcp, by simp [parse, h]⟩

theorem parse_of_not_isNamedBy {s : String} (h : ¬ IsNamedBy s) :
    parse s = .error (.invalidMode s) := by
  simp only [IsNamedBy, not_or, ← Text.trim_eq_nil_iff] at h
  obtain ⟨hblank, hhttp, htcp⟩ := h
  have hne : ∀ t : String, Text.lowerAscii (Text.trim s.toList) ≠ t.toList →
      String.ofList (Text.lowerAscii (Text.trim s.toList)) ≠ t := by
    intro t ht heq
    exact ht (by rw [← heq, String.toList_ofList])
  rw [parse, if_neg, if_neg (hne _ htcp)]
  rintro (h | h)
  · refine hne "" ?_ h
    simpa [Text.lowerAscii] using hblank
  · exact hne _ hhttp h

end ProxyMode

namespace Request

/-- Does a text spell an address, blanks around it aside? -/
def SpellsIp (s : String) : Prop :=
  (Ip.parse? (Text.trim s.toList)).isSome = true

instance (s : String) : Decidable (SpellsIp s) := inferInstanceAs (Decidable (_ = _))

/-- Every request to deregister is accepted, and one to register when its addresses and its mode can
be understood. -/
def Accepted (q : Request) : Prop :=
  q.action = .deregister ∨
    (q.action = .register ∧ SpellsIp q.frontendAddr ∧ SpellsIp q.backendAddr ∧
      ProxyMode.IsNamedBy q.mode)

instance (q : Request) : Decidable q.Accepted := inferInstanceAs (Decidable (_ ∨ _))

theorem readIp_of_spellsIp {s : String} (h : SpellsIp s) (side : Side) :
    ∃ ip, readIp side s = .ok ip := by
  obtain ⟨ip, hip⟩ := Option.isSome_iff_exists.1 h
  exact ⟨ip, by rw [readIp, hip]⟩

theorem readIp_of_not_spellsIp {s : String} (h : ¬ SpellsIp s) (side : Side) :
    readIp side s = .error (.invalidAddress side s) := by
  rw [SpellsIp, Option.not_isSome_iff_eq_none] at h
  rw [readIp, h]

/-- A request describes an endpoint exactly when its addresses and its mode can be understood. -/
theorem exists_toEndpoint_iff {q : Request} :
    (∃ e, q.toEndpoint = .ok e) ↔
      SpellsIp q.frontendAddr ∧ SpellsIp q.backendAddr ∧ ProxyMode.IsNamedBy q.mode := by
  by_cases hf : SpellsIp q.frontendAddr
  · obtain ⟨f, hf'⟩ := readIp_of_spellsIp hf .frontend
    by_cases hb : SpellsIp q.backendAddr
    · obtain ⟨b, hb'⟩ := readIp_of_spellsIp hb .backend
      by_cases hm : ProxyMode.IsNamedBy q.mode
      · obtain ⟨m, hm'⟩ := ProxyMode.parse_of_isNamedBy hm
        simp [toEndpoint, hf', hb', hm', hf, hb, hm, bind, Except.bind, pure, Except.pure]
      · have hm' := ProxyMode.parse_of_not_isNamedBy hm
        simp [toEndpoint, hf', hb', hm', hm, bind, Except.bind]
    · have hb' := readIp_of_not_spellsIp hb .backend
      simp [toEndpoint, hf', hb', hb, bind, Except.bind]
  · have hf' := readIp_of_not_spellsIp hf .frontend
    simp [toEndpoint, hf', hf, bind, Except.bind]

/-- The key of a stored endpoint is the key of the request that described it. -/
theorem key_of_toEndpoint {q : Request} {e : Endpoint} (h : q.toEndpoint = .ok e) :
    e.key = q.key := by
  have hport : ∀ (ip : Ip) (port : Port), (SocketAddress.ofIp ip port).port = port := by
    intro ip port
    cases ip <;> rfl
  simp only [toEndpoint, bind, Except.bind] at h
  split at h
  · cases h
  · split at h
    · cases h
    · split at h
      · cases h
      · cases h
        simp only [Endpoint.key, hport, key]

/-! ## The reply and the change -/

/-- The key that a request is carried out under, or why it is refused. -/
def outcome (q : Request) : Except RegistryError ServiceKey :=
  match q.action with
  | .register => q.toEndpoint.map fun _ => q.key
  | .deregister => .ok q.key
  | .unknown => .error .unknownAction

/-- The reply to a request. -/
def reply (q : Request) : Reply :=
  match q.outcome with
  | .ok _ => .ok
  | .error e => .failed e.message

/-- What is stored under the key of an accepted request once it is carried out. -/
def stored? (q : Request) : Option Endpoint :=
  match q.action with
  | .register => q.toEndpoint.toOption
  | _ => none

theorem exists_outcome_iff {q : Request} : (∃ key, q.outcome = .ok key) ↔ q.Accepted := by
  rw [Accepted]
  cases ha : q.action with
  | unknown => simp [outcome, ha]
  | register =>
      rw [← exists_toEndpoint_iff]
      cases he : q.toEndpoint <;> simp [outcome, ha, he, Except.map]
  | deregister => simp [outcome, ha]

theorem isSuccess_reply (q : Request) : q.reply.isSuccess = decide q.Accepted := by
  have hiff := exists_outcome_iff (q := q)
  cases ho : q.outcome with
  | ok key =>
      have : q.Accepted := hiff.1 ⟨key, ho⟩
      simp [reply, ho, this, Reply.ok, Reply.isSuccess]
  | error e =>
      have : ¬ q.Accepted := by simp [← hiff, ho]
      simp [reply, ho, this, Reply.failed, Reply.isSuccess, Reply.statusOk, Reply.statusFailed]

/-- An accepted request to register stores the endpoint that it describes. -/
theorem exists_stored?_iff {q : Request} (h : q.Accepted) :
    (∃ e, q.stored? = some e) ↔ q.action = .register := by
  rcases h with h | ⟨h, hparts⟩
  · simp [stored?, h]
  · obtain ⟨e, he⟩ := exists_toEndpoint_iff.2 hparts
    simp [stored?, h, he, Except.toOption]

theorem stored?_eq_some_iff {q : Request} {e : Endpoint} :
    q.stored? = some e ↔ q.action = .register ∧ q.toEndpoint = .ok e := by
  cases ha : q.action with
  | unknown | deregister => simp [stored?, ha]
  | register => cases he : q.toEndpoint <;> simp [stored?, ha, he, Except.toOption]

end Request

namespace Registry

/-- The registry once a request is dealt with. -/
def after (r : Registry) (q : Request) : Registry :=
  match q.action with
  | .register =>
    match q.toEndpoint with
    | .ok e => r.put q.key e
    | .error _ => r
  | .deregister => r.delete q.key.text
  | .unknown => r

theorem apply_result (r : Registry) (log : Log) (w : Walk) (q : Request) :
    (r.apply log w q).result = q.outcome := by
  cases ha : q.action with
  | unknown | deregister => simp [apply, Request.outcome, ha]
  | register =>
      cases he : q.toEndpoint with
      | error e => simp [apply, Request.outcome, ha, he, Except.map]
      | ok e => simp [apply, Request.outcome, ha, he, Except.map, Request.key_of_toEndpoint he]

theorem apply_registry (r : Registry) (log : Log) (w : Walk) (q : Request) :
    (r.apply log w q).registry = r.after q := by
  cases ha : q.action with
  | unknown | deregister => simp [apply, after, ha]
  | register =>
      cases he : q.toEndpoint with
      | error e => simp [apply, after, ha, he]
      | ok e => simp [apply, after, ha, he, Request.key_of_toEndpoint he]

/-- The reply depends on the request alone. -/
theorem handle_result (r : Registry) (log : Log) (w : Walk) (q : Request) :
    (r.handle log w q).result = q.reply := by
  have h := apply_result r log w q
  cases ho : q.outcome <;> simp [handle, Request.reply, h, ho]

theorem handle_registry (r : Registry) (log : Log) (w : Walk) (q : Request) :
    (r.handle log w q).registry = r.after q := by
  have h := apply_result r log w q
  cases ho : q.outcome <;> simp [handle, h, ho, apply_registry]

theorem answer_eq (r : Registry) (q : Request) : r.answer q = (q.reply, r.after q) := by
  rw [answer, handle_result, handle_registry]

/-- A refused request leaves the registry as it is. -/
theorem after_of_not_accepted {q : Request} (h : ¬ q.Accepted) (r : Registry) : r.after q = r := by
  rw [← Request.exists_outcome_iff] at h
  cases ha : q.action with
  | unknown => simp [after, ha]
  | deregister => simp [Request.outcome, ha] at h
  | register => cases he : q.toEndpoint <;> simp_all [after, Request.outcome, Except.map]

/-- An accepted request settles what is stored under its key, and touches no other. -/
theorem get?_after_of_accepted {q : Request} (h : q.Accepted) (r : Registry) (k : String) :
    (r.after q).get? k = if q.key.text = k then q.stored? else r.get? k := by
  rcases h with h | ⟨h, hparts⟩
  · simp [after, h, get?_delete, Request.stored?]
  · obtain ⟨e, he⟩ := Request.exists_toEndpoint_iff.2 hparts
    simp [after, h, he, get?_put, Request.stored?, Except.toOption]

end Registry

end MeshRegistry
