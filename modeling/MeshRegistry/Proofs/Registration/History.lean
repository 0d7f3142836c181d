import Mathlib.Data.Set.Card
import MeshRegistry.Proofs.Registration.Acceptance

/-!
# What a registry holds after a run of requests

Whatever requests a registry has handled, under each key it holds the endpoint of the last accepted
request for that key, if that one was to register, and nothing otherwise.
-/

namespace MeshRegistry

namespace Request

/-- The last of some requests that is accepted and about a key. -/
def lastAccepted (k : String) (qs : List Request) : Option Request :=
  (qs.filter fun q => q.Accepted ∧ q.key.text = k).getLast?

@[simp] theorem lastAccepted_nil (k : String) : lastAccepted k [] = none := rfl

theorem lastAccepted_concat (k : String) (qs : List Request) (q : Request) :
    lastAccepted k (qs ++ [q]) =
      if q.Accepted ∧ q.key.text = k then some q else lastAccepted k qs := by
  rw [lastAccepted, List.filter_append]
  by_cases h : q.Accepted ∧ q.key.text = k
  · rw [if_pos h, List.filter_cons_of_pos (by simpa using h), List.filter_nil,
      List.getLast?_concat]
  · rw [if_neg h, List.filter_cons_of_neg (by simpa using h), List.filter_nil, List.append_nil,
      lastAccepted]

theorem of_lastAccepted {k : String} {qs : List Request} {q : Request}
    (h : lastAccepted k qs = some q) : q.Accepted ∧ q.key.text = k := by
  have hmem := List.mem_of_getLast? h
  simpa using (List.mem_filter.1 hmem).2

end Request

/-- A request, and how the log and the walks of the store are set while it is handled. -/
structure Turn where
  request : Request
  log : Log
  walk : Walk

namespace Registry

open Request (lastAccepted)

/-- Handles requests one after another: the replies, and the registry in the end. -/
def handleAll (r : Registry) : List Turn → List Reply × Registry
  | [] => ([], r)
  | t :: rest =>
    let done := r.handle t.log t.walk t.request
    let (replies, last) := done.registry.handleAll rest
    (done.result :: replies, last)

theorem handleAll_eq (r : Registry) (turns : List Turn) :
    r.handleAll turns =
      (turns.map fun t => t.request.reply, (turns.map Turn.request).foldl after r) := by
  induction turns generalizing r with
  | nil => rfl
  | cons t rest ih =>
      rw [handleAll, ih]
      simp only [handle_result, handle_registry, List.map_cons, List.foldl_cons]

/-- The last accepted request for a key settles what is stored under it. -/
theorem get?_foldl_after_from (r : Registry) (qs : List Request) (k : String) :
    (qs.foldl after r).get? k = (lastAccepted k qs).elim (r.get? k) Request.stored? := by
  induction qs using List.reverseRecOn with
  | nil => rfl
  | append_singleton qs q ih =>
      rw [List.foldl_append, List.foldl_cons, List.foldl_nil, Request.lastAccepted_concat]
      by_cases hq : q.Accepted
      · rw [get?_after_of_accepted hq, ih]
        by_cases hk : q.key.text = k
        · rw [if_pos hk, if_pos ⟨hq, hk⟩, Option.elim_some]
        · rw [if_neg hk, if_neg (fun h => hk h.2)]
      · rw [after_of_not_accepted hq, ih, if_neg (fun h => hq h.1)]

theorem get?_foldl_after (qs : List Request) (k : String) :
    (qs.foldl after empty).get? k = (lastAccepted k qs).bind Request.stored? := by
  rw [get?_foldl_after_from, get?_empty]
  cases lastAccepted k qs <;> rfl

/-- The size counts the keys under which something is stored. -/
theorem encard_stored (r : Registry) : {k | ∃ e, r.get? k = some e}.encard = r.size := by
  have hkeys : {k | ∃ e, r.get? k = some e} = (r.entries.keys.toFinset : Set String) := by
    ext k
    rw [Set.mem_ofPred_eq, Finset.mem_coe, List.mem_toFinset, Std.ExtTreeMap.mem_keys,
      ← Std.ExtTreeMap.contains_iff_mem, ← Std.ExtTreeMap.isSome_getElem?_eq_contains,
      Option.isSome_iff_exists, get?]
  rw [hkeys, Set.encard_coe_eq_coe_finsetCard,
    List.toFinset_card_of_nodup Std.ExtTreeMap.nodup_keys, Std.ExtTreeMap.length_keys, size]

/-- A registry holds what some requests have left in it: under each key the endpoint of the last
accepted request for that key if that one was to register, and nothing if not. -/
structure Reflects (r : Registry) (qs : List Request) : Prop where
  get?_eq_some_iff : ∀ k e, r.get? k = some e ↔
    ∃ q, lastAccepted k qs = some q ∧ q.action = .register ∧ q.toEndpoint = .ok e
  exists_get?_iff : ∀ k, (∃ e, r.get? k = some e) ↔
    ∃ q, lastAccepted k qs = some q ∧ q.action = .register
  key_eq : ∀ k e, r.get? k = some e → e.key.text = k
  size_eq : r.size = {k | ∃ q, lastAccepted k qs = some q ∧ q.action = .register}.encard

theorem reflects_foldl_after (qs : List Request) : (qs.foldl after empty).Reflects qs := by
  have hget : ∀ k e, (qs.foldl after empty).get? k = some e ↔
      ∃ q, lastAccepted k qs = some q ∧ q.action = .register ∧ q.toEndpoint = .ok e := by
    intro k e
    rw [get?_foldl_after, Option.bind_eq_some_iff]
    simp only [Request.stored?_eq_some_iff]
  have hstored : ∀ k, (∃ e, (qs.foldl after empty).get? k = some e) ↔
      ∃ q, lastAccepted k qs = some q ∧ q.action = .register := by
    intro k
    constructor
    · rintro ⟨e, he⟩
      obtain ⟨q, hq, haction, -⟩ := (hget k e).1 he
      exact ⟨q, hq, haction⟩
    · rintro ⟨q, hq, haction⟩
      obtain ⟨e, he⟩ := (Request.exists_stored?_iff (Request.of_lastAccepted hq).1).2 haction
      exact ⟨e, by rw [get?_foldl_after, hq, Option.bind_some, he]⟩
  refine ⟨hget, hstored, ?_, ?_⟩
  · intro k e he
    obtain ⟨q, hq, -, hdescribed⟩ := (hget k e).1 he
    rw [Request.key_of_toEndpoint hdescribed, (Request.of_lastAccepted hq).2]
  · simp only [← encard_stored, hstored]

/-- What a run of requests leaves behind, the registry being empty at first.  The replies report
success exactly for the accepted requests, and the registry reflects the requests.  Whatever the
registry, a refused request leaves it as it was, and `apply` does to it what `handle` does. -/
theorem handleAll_empty (turns : List Turn) :
    (empty.handleAll turns).1.map Reply.isSuccess =
        (turns.map fun t => decide t.request.Accepted) ∧
      (empty.handleAll turns).2.Reflects (turns.map Turn.request) ∧
      ∀ (r : Registry) (t : Turn),
        (¬ t.request.Accepted → (r.handle t.log t.walk t.request).registry = r) ∧
        (r.apply t.log t.walk t.request).registry = (r.handle t.log t.walk t.request).registry ∧
        ((∃ key, (r.apply t.log t.walk t.request).result = .ok key) ↔ t.request.Accepted) := by
  rw [handleAll_eq]
  refine ⟨?_, reflects_foldl_after _, ?_⟩
  · rw [List.map_map]
    exact List.map_congr_left fun t _ => Request.isSuccess_reply t.request
  · intro r t
    rw [handle_registry, apply_registry, apply_result]
    exact ⟨fun h => after_of_not_accepted h r, rfl, Request.exists_outcome_iff⟩

end Registry

end MeshRegistry
