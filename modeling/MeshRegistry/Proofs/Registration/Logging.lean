import MeshRegistry.Proofs.Discovery.Interruption

/-!
# What the log shows of a request

Neither the log nor the walk behind a listing has a part in what a request does.  A log that keeps
details shows what becomes of an accepted request and then the registry as the request left it, entry
by entry as far as the walk gets; of a refused request it shows the refusal only.
-/

namespace MeshRegistry

/-- A line of a log: the level, the message, and the fields with their values. -/
abbrev Line := Level × String × List (String × String)

namespace Event

def line (ev : Event) : Line :=
  (ev.level, ev.message, ev.fields)

theorem rank_level_le (ev : Event) : ev.level.rank ≤ Level.debug.rank := by
  cases ev <;> simp [level, Level.rank]

end Event

namespace Log

/-- No event is finer than a detail. -/
theorem keep_of_admits_debug {log : Log} (h : log.admits .debug = true) (events : List Event) :
    log.keep events = events := by
  apply List.filter_eq_self.2
  intro ev _
  unfold admits at h ⊢
  split at h
  · cases h
  · exact decide_eq_true (ev.rank_level_le.trans (of_decide_eq_true h))

end Log

namespace Request

/-- The event that announces what an accepted request does. -/
def announcement (q : Request) : Event :=
  match q.stored? with
  | some e => .registering q.key e.frontend e.backend
  | none => .deregistering q.key

/-- The line of the announcement. -/
def announcementLine (q : Request) : Line :=
  match q.stored? with
  | some e =>
    (.info, "registering",
      [("key", q.key.text), ("frontend", e.frontend.text), ("backend", e.backend.text)])
  | none => (.info, "deregistering", [("key", q.key.text)])

theorem line_announcement (q : Request) : q.announcement.line = q.announcementLine := by
  unfold announcement announcementLine
  cases q.stored? <;> rfl

end Request

namespace Registry

/-! ## The listing -/

/-- The events of a listing when all of them are kept. -/
def wholeListing (r : Registry) (w : Walk) : List Event :=
  .listing r.size :: (r.visited w).map (fun p => .listed p.1 p.2) ++
    if (r.visited w).length < r.size then [.listingBroken Walk.interruption] else []

theorem listing_of_admits {log : Log} (h : log.admits .debug = true) (r : Registry) (w : Walk) :
    r.listing log w = r.wholeListing w := by
  rw [listing, if_pos h, forEach_append r w Event.listed, handedOut_snd, visited_eq_handedOut]
  dsimp only
  rw [Log.keep_of_admits_debug h, wholeListing, visited_eq_handedOut]
  split_ifs <;> rfl

/-- Lines that list a registry: how many entries it has, one line for each entry that the walk shows
with what is stored under its key, and a warning if the walk does not show them all. -/
structure Lists (r : Registry) (w : Walk) (lines : List Line) : Prop extends ShowsFront r w where
  lines_eq : lines =
    (.debug, "registry entries:", [("count", r.size.repr)]) ::
      (r.visited w).map (fun p =>
        (.debug, "  entry",
          [("key", p.1), ("frontend", p.2.frontend.text), ("backend", p.2.backend.text),
            ("mode", p.2.mode.name)])) ++
      if (r.visited w).length < r.size then
        [(.warn, "could not list registry entries", [("error", Walk.interruption.message)])]
      else []
  visited_all : r.size ≤ (r.visited w).length → ∀ k e, (k, e) ∈ r.visited w ↔ r.get? k = some e

theorem mem_visited_of_all {r : Registry} {w : Walk} (h : r.size ≤ (r.visited w).length)
    (k : String) (e : Endpoint) : (k, e) ∈ r.visited w ↔ r.get? k = some e := by
  have hlength := length_order r w
  rw [visited_eq_take, List.length_take] at h
  rw [visited_eq_take, List.take_of_length_le (by omega), (w.order_perm _).mem_iff,
    mem_toList_iff]

theorem lists_wholeListing (r : Registry) (w : Walk) :
    r.Lists w ((r.wholeListing w).map Event.line) where
  toShowsFront := showsFront r w
  lines_eq := by
    rw [wholeListing, List.map_append, List.map_cons, List.map_map]
    split_ifs <;> rfl
  visited_all := mem_visited_of_all

/-! ## The events of a request -/

theorem apply_events_of_accepted {q : Request} (h : q.Accepted) (r : Registry) (log : Log)
    (w : Walk) :
    (r.apply log w q).events = log.keep [q.announcement] ++ (r.after q).listing log w := by
  rcases h with h | ⟨h, hparts⟩
  · simp [apply, after, h, Request.announcement, Request.stored?]
  · obtain ⟨e, he⟩ := Request.exists_toEndpoint_iff.2 hparts
    simp [apply, after, h, he, Request.announcement, Request.stored?, Except.toOption,
      Request.key_of_toEndpoint he]

theorem apply_events_of_not_accepted {q : Request} (h : ¬ q.Accepted) (r : Registry) (log : Log)
    (w : Walk) : (r.apply log w q).events = [] := by
  rw [← Request.exists_outcome_iff] at h
  cases ha : q.action with
  | unknown => simp [apply, ha]
  | deregister => simp [Request.outcome, ha] at h
  | register => cases he : q.toEndpoint <;> simp_all [apply, Request.outcome, Except.map]

theorem handle_events_of_accepted {q : Request} (h : q.Accepted) (r : Registry) (log : Log)
    (w : Walk) : (r.handle log w q).events = (r.apply log w q).events := by
  obtain ⟨key, hkey⟩ := Request.exists_outcome_iff.2 h
  simp [handle, apply_result, hkey]

theorem handle_events_of_outcome {q : Request} {e : RegistryError} (h : q.outcome = .error e)
    (r : Registry) (log : Log) (w : Walk) :
    (r.handle log w q).events = (r.apply log w q).events ++ log.keep [.refused q.action e] := by
  simp [handle, apply_result, h]

end Registry

/-- The same request with nothing logged and a walk that does not break off. -/
def Turn.silent (t : Turn) : Turn :=
  { t with log := .off, walk := t.walk.unbroken }

namespace Registry

theorem handleAll_silent (r : Registry) (turns : List Turn) :
    r.handleAll (turns.map Turn.silent) = r.handleAll turns := by
  rw [handleAll_eq, handleAll_eq, List.map_map, List.map_map]
  rfl

/-- How requests are logged makes no difference to any run of them.  At the level of details or finer,
an accepted request is announced and followed by the registry that it leaves behind, and of a refused
one there is only the reason. -/
theorem requests_are_logged :
    (∀ (r : Registry) (turns : List Turn),
        r.handleAll turns = r.handleAll (turns.map Turn.silent)) ∧
      ∀ (r : Registry) (log : Log) (w w' : Walk) (q : Request),
        ((r.apply log w q).result = (r.apply .off w'.unbroken q).result ∧
          (r.apply log w q).registry = (r.apply .off w'.unbroken q).registry ∧
          (r.handle log w q).result = (r.handle .off w'.unbroken q).result ∧
          (r.handle log w q).registry = (r.handle .off w'.unbroken q).registry) ∧
        (log.admits .debug = true →
          (q.Accepted →
            (r.handle log w q).events = (r.apply log w q).events ∧
            ∃ lines, (r.handle log w q).events.map Event.line = q.announcementLine :: lines ∧
              (r.handle log w q).registry.Lists w lines) ∧
          (¬ q.Accepted →
            (r.apply log w q).events = [] ∧
            ∃ e, (r.apply log w q).result = .error e ∧
              (r.handle log w q).events.map Event.line =
                [(.warn, "registration request refused",
                  [("action", q.action.name), ("error", e.message)])])) := by
  refine ⟨fun r turns => (handleAll_silent r turns).symm, ?_⟩
  intro r log w w' q
  refine ⟨?_, ?_⟩
  · simp only [apply_result, apply_registry, handle_result, handle_registry, and_self]
  · intro hdebug
    constructor
    · intro haccepted
      have happly := apply_events_of_accepted haccepted r log w
      have hhandle := handle_events_of_accepted haccepted r log w
      rw [listing_of_admits hdebug, Log.keep_of_admits_debug hdebug] at happly
      refine ⟨hhandle, ((r.after q).wholeListing w).map Event.line, ?_, ?_⟩
      · rw [hhandle, happly, List.map_append, List.map_singleton, Request.line_announcement,
          List.singleton_append]
      · rw [handle_registry]
        exact lists_wholeListing _ w
    · intro hrefused
      have happly := apply_events_of_not_accepted hrefused r log w
      cases houtcome : q.outcome with
      | ok key => exact absurd (Request.exists_outcome_iff.1 ⟨key, houtcome⟩) hrefused
      | error e =>
          refine ⟨happly, e, by rw [apply_result, houtcome], ?_⟩
          rw [handle_events_of_outcome houtcome, happly, Log.keep_of_admits_debug hdebug]
          rfl

/-- A request to register, which is accepted if its backend has an address. -/
def backendAt (backendAddr : String) : Request :=
  { frontendAddr := "127.0.0.1", frontendPort := 80, backendAddr := backendAddr,
    backendPort := 8080, service := "web", environment := "dev", mode := "tcp",
    action := .register }

theorem requests_are_logged_replaced :
    (∃ lines,
        ((empty.after (backendAt "::1")).handle ⟨some .debug⟩ (.brokenAfter 0)
          (backendAt "::2")).events.map Event.line = (backendAt "::2").announcementLine :: lines ∧
        ((empty.after (backendAt "::1")).handle ⟨some .debug⟩ (.brokenAfter 0)
          (backendAt "::2")).registry.Lists (.brokenAfter 0) lines) ∧
      ∃ e, (empty.apply ⟨some .trace⟩ .whole (backendAt "localhost")).result = .error e ∧
        (empty.handle ⟨some .trace⟩ .whole (backendAt "localhost")).events.map Event.line =
          [(.warn, "registration request refused",
            [("action", "Register"), ("error", e.message)])] := by
  obtain ⟨-, hlogged⟩ := requests_are_logged
  have hreplaced := (hlogged (empty.after (backendAt "::1")) ⟨some .debug⟩ (.brokenAfter 0) .whole
    (backendAt "::2")).2 rfl
  have hrefused := (hlogged empty ⟨some .trace⟩ .whole .whole (backendAt "localhost")).2 rfl
  exact ⟨(hreplaced.1 (by decide)).2, (hrefused.2 (by decide)).2⟩

end Registry

end MeshRegistry
