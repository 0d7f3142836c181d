import MeshRegistry.Proofs.Proxy.Outlets

/-!
# What a relay passes on

Each datagram that is passed on came in before, on the side of its own client, and nothing about it
has changed.  A loop passes on what it holds before it takes in more, so nothing overtakes.
-/

namespace MeshRegistry.Proxy

open Text (Bytes)

/-! ## What a loop holds -/

/-- The datagram that the loop holds. -/
def Receiver.holds : Receiver → List (SocketAddress × Bytes)
  | .opening client payload => [(client, payload)]
  | .sending client _ payload => [(client, payload)]
  | _ => []

/-- The reply that the loop holds. -/
def Waiter.holds : Waiter → List Bytes
  | .passing payload => [payload]
  | _ => []

def Turn.reply? : Turn → Option Bytes
  | .reply payload => some payload
  | _ => none

/-- What a turn passes on, and what the loop holds after it, was held before or came in. -/
theorem ReplyLoop.holds_after (l : ReplyLoop) (isStopRequested : Bool) {t : Turn}
    (hfits : ∀ payload ∈ t.reply?, payload.length ≤ maxDatagram) :
    ((l.passage? t).toList.map (·.payload) ++ (l.stage.after isStopRequested t).holds).Sublist
      (l.stage.holds ++ t.reply?.toList) := by
  obtain ⟨client, outlet, stage⟩ := l
  dsimp only
  cases stage with
  | waiting =>
      cases t with
      | reply payload =>
          have hafter : Waiter.after isStopRequested .waiting (.reply payload) = .passing payload :=
            congrArg Waiter.passing (List.take_of_length_le (hfits payload rfl))
          rw [hafter]
          exact List.Sublist.refl _
      | stopNoticed => cases isStopRequested <;> exact List.nil_sublist _
      | passed | failed | idle | left => exact List.nil_sublist _
  | passing payload =>
      cases t with
      | passed isSent =>
          cases isSent
          · exact List.nil_sublist _
          · exact List.Sublist.refl _
      | reply | failed | idle | stopNoticed | left => exact List.sublist_append_left _ _
  | leaving => cases t <;> exact List.nil_sublist _
  | gone => exact List.nil_sublist _

namespace Relay

/-! ## What is passed on -/

/-- A datagram that comes in fits into the memory it is received in. -/
def Happening.Fits : Happening → Prop
  | .datagram _ payload => payload.length ≤ maxDatagram
  | .turn _ t => ∀ payload ∈ t.reply?, payload.length ≤ maxDatagram
  | _ => True

def Happening.datagram? : Happening → Option (SocketAddress × Bytes)
  | .datagram client payload => some (client, payload)
  | _ => none

/-- The datagrams of clients among all that happened. -/
def datagrams (hs : List Happening) : List (SocketAddress × Bytes) :=
  hs.filterMap Happening.datagram?

def Happening.replyTo? (i : Nat) : Happening → Option Bytes
  | .turn index t => if i = index then t.reply? else none
  | _ => none

/-- The replies to one loop among all that happened. -/
def repliesTo (i : Nat) (hs : List Happening) : List Bytes :=
  hs.filterMap (Happening.replyTo? i)

/-- The datagrams that were sent to the backend, with whom they are from. -/
def forwards (r : Relay) : List (SocketAddress × Bytes) :=
  r.sent.map fun p => (p.client, p.payload)

/-- What came back on a socket and was passed on. -/
def returns (r : Relay) (outlet : Outlet) : List Bytes :=
  (r.delivered.filter (·.outlet = outlet)).map (·.payload)

/-! What a loop holds will be passed on next, if it is passed on. -/

/-- The datagrams of clients that were sent or may still be. -/
def carried (r : Relay) : List (SocketAddress × Bytes) :=
  r.forwards ++ r.receiver.holds

/-- The replies to a loop that were passed on or may still be. -/
def answered (r : Relay) (i : Nat) : List Bytes :=
  r.returns i ++ (r.loops[i]?).elim [] (·.stage.holds)

theorem carried_of_steps {r r' : Relay} {e : Happening} (hsteps : Steps r e r') (hfits : e.Fits) :
    r'.carried.Sublist (r.carried ++ e.datagram?.toList) := by
  have hheld : r.carried.Sublist (r.carried ++ e.datagram?.toList) := List.sublist_append_left _ _
  have hdropped : (r.forwards ++ []).Sublist r.carried :=
    (List.Sublist.refl _).append (List.nil_sublist _)
  cases hsteps with
  | @received client payload hready =>
      have htake : payload.take maxDatagram = payload := List.take_of_length_le hfits
      have hholds : (r.receive client (payload.take maxDatagram)).receiver.holds =
          [(client, payload)] := by
        rw [htake, receive]
        dsimp only
        split <;> rfl
      have hbefore : r.receiver.holds = [] := by
        rw [hready]
        rfl
      rw [carried, carried, hholds, hbefore, List.append_nil]
      exact List.Sublist.refl _
  | @registered client payload hopening =>
      have hsame : (r.register client payload).carried = r.carried := by
        rw [carried, carried, hopening]
        rfl
      rwa [hsame]
  | @forwarded client outlet payload hsending =>
      have hsame : ({ r with
          receiver := .ready, sent := r.sent ++ [⟨client, outlet, payload⟩] } : Relay).carried =
            r.carried := by
        rw [carried, carried, hsending, forwards, forwards, List.map_append]
        exact List.append_nil _
      rwa [hsame]
  | dropped | stopped => exact hdropped.trans hheld
  | @turn index t =>
      have hsame : (r.turn index t).carried = r.carried := by
        rw [carried, carried, forwards, forwards, turn_sent, turn_receiver]
      rwa [hsame]
  | asked | unmoved => exact hheld

theorem returns_turn (r : Relay) (index : Nat) (t : Turn) (outlet : Outlet) :
    (r.turn index t).returns outlet = r.returns outlet ++
      ((((r.loops[index]?).bind (·.passage? t)).toList.filter (·.outlet = outlet)).map
        (·.payload)) := by
  rw [returns, turn_delivered, List.filter_append, List.map_append]
  rfl

theorem answered_turn {r : Relay} (h : r.Inv) {index : Nat} {t : Turn}
    (hfits : (Happening.turn index t).Fits) (i : Nat) :
    ((r.turn index t).answered i).Sublist
      (r.answered i ++ ((Happening.turn index t).replyTo? i).toList) := by
  cases hl : r.loops[index]? with
  | none =>
      rw [turn_of_none hl]
      exact List.sublist_append_left _ _
  | some l =>
      have hpassage : ∀ p ∈ (l.passage? t).toList, p.outlet = index := by
        intro p hp
        rw [ReplyLoop.of_passage? (Option.mem_toList.1 hp)]
        exact (h.socket_of_loop hl).1
      rw [answered, answered, returns_turn, turn_loops, hl, Option.bind_some, List.append_assoc,
        List.append_assoc]
      apply (List.Sublist.refl _).append
      by_cases hi : i = index
      · subst hi
        have hown : (l.passage? t).toList.filter (·.outlet = i) = (l.passage? t).toList :=
          List.filter_eq_self.2 fun p hp => decide_eq_true (hpassage p hp)
        rw [hown, hl]
        simp only [Happening.replyTo?, Option.map_some, Option.elim_some, if_true]
        exact l.holds_after r.stopRequested hfits
      · have hother : (l.passage? t).toList.filter (·.outlet = i) = [] := by
          apply List.filter_eq_nil_iff.2
          intro p hp hsame
          exact hi ((of_decide_eq_true hsame).symm.trans (hpassage p hp))
        rw [hother]
        simp only [hi, if_false, Option.map_id_fun']
        exact List.sublist_append_left _ _

theorem answered_of_steps {r r' : Relay} (h : r.Inv) {e : Happening} (hsteps : Steps r e r')
    (hfits : e.Fits) (i : Nat) :
    (r'.answered i).Sublist (r.answered i ++ (e.replyTo? i).toList) := by
  have hheld : (r.answered i).Sublist (r.answered i ++ (e.replyTo? i).toList) :=
    List.sublist_append_left _ _
  cases hsteps with
  | @received client payload hready => exact hheld
  | @registered client payload hopening =>
      have hsame : (r.register client payload).answered i = r.answered i := by
        have hholds : ((r.register client payload).loops[i]?).elim [] (·.stage.holds) =
            (r.loops[i]?).elim [] (·.stage.holds) := by
          unfold register
          dsimp only
          rw [List.getElem?_append]
          split
          case isTrue => rfl
          case isFalse hge =>
            rw [List.getElem?_eq_none (Nat.le_of_not_lt hge)]
            cases i - r.loops.length <;> rfl
        rw [answered, answered, hholds]
        rfl
      rwa [hsame]
  | @turn index t => exact answered_turn h hfits i
  | dropped | stopped | forwarded | asked | unmoved => exact hheld

theorem filterMap_concat {α β : Type} (f : α → Option β) (l : List α) (a : α) :
    (l ++ [a]).filterMap f = l.filterMap f ++ (f a).toList := by
  rw [List.filterMap_append]
  cases h : f a with
  | none => rw [List.filterMap_cons_none h]; rfl
  | some b => rw [List.filterMap_cons_some h]; rfl

/-- What each step adds no more to than came in with it, has come in after any run. -/
theorem sublist_run {α : Type} (kept : Relay → List α) (comesIn : Happening → Option α)
    (hstart : kept start = [])
    (hsteps : ∀ {r r' : Relay} {e : Happening}, r.Inv → Steps r e r' → e.Fits →
      (kept r').Sublist (kept r ++ (comesIn e).toList))
    {hs : List Happening} (hfit : ∀ e ∈ hs, e.Fits) :
    (kept (run hs)).Sublist (hs.filterMap comesIn) := by
  induction hs using List.reverseRecOn with
  | nil =>
      rw [run, List.foldl_nil, hstart]
      exact List.nil_sublist _
  | append_singleton hs e ih =>
      rw [List.forall_mem_append, List.forall_mem_singleton] at hfit
      have hstep := hsteps (inv_run hs) (steps_step (run hs) e) hfit.2
      have hbefore := (ih hfit.1).append (List.Sublist.refl (comesIn e).toList)
      rw [run_concat, filterMap_concat]
      exact hstep.trans hbefore

theorem carried_run {hs : List Happening} (hfit : ∀ e ∈ hs, e.Fits) :
    (run hs).carried.Sublist (datagrams hs) := by
  apply sublist_run carried Happening.datagram? rfl _ hfit
  exact fun _ => carried_of_steps

theorem answered_run {hs : List Happening} (hfit : ∀ e ∈ hs, e.Fits) (i : Nat) :
    ((run hs).answered i).Sublist (repliesTo i hs) := by
  apply sublist_run (·.answered i) (Happening.replyTo? i) rfl _ hfit
  exact fun h hsteps hfits => answered_of_steps h hsteps hfits i

/-! ## Stopping -/

theorem receiver_of_steps {r r' : Relay} {e : Happening} (hsteps : Steps r e r')
    (hstopped : r.receiver = .stopped) : r'.receiver = .stopped := by
  cases hsteps with
  | received hready => cases hready.symm.trans hstopped
  | registered hopening => cases hopening.symm.trans hstopped
  | forwarded hsending => cases hsending.symm.trans hstopped
  | dropped hreceiving => exact absurd hstopped hreceiving
  | stopped => rfl
  | turn => rwa [turn_receiver]
  | asked | unmoved => exact hstopped

theorem receiver_run_append {hs : List Happening} (hstopped : (run hs).receiver = .stopped)
    (more : List Happening) : (run (hs ++ more)).receiver = .stopped := by
  induction more using List.reverseRecOn with
  | nil => rwa [List.append_nil]
  | append_singleton more e ih =>
      rw [← List.append_assoc, run_concat]
      exact receiver_of_steps (steps_step _ e) ih

/-! ## All of it -/

/-- A relay keeps its clients apart. -/
structure KeepsApart (r : Relay) : Prop where
  clients_nodup : (r.table.map Prod.fst).Nodup
  outlets_nodup : (r.table.map Prod.snd).Nodup
  socket_of_loop : ∀ {i : Nat} {l : ReplyLoop}, r.loops[i]? = some l →
    l.outlet = i ∧ r.sockets[i]? = some l.client
  one_loop : ∀ {client : SocketAddress} {outlet : Outlet}, (client, outlet) ∈ r.table →
    r.sockets[outlet]? = some client ∧
      ∃! i : Nat, ∃ l : ReplyLoop, r.loops[i]? = some l ∧ l.outlet = outlet ∧ l.stage ≠ .gone
  removal : ∀ {i : Nat} {l : ReplyLoop}, r.loops[i]? = some l → l.stage = .leaving →
    (r.step (.turn i .left)).table = r.table.filter (·.2 ≠ l.outlet)
  sent : ∀ p ∈ r.sent, r.sockets[p.outlet]? = some p.client
  delivered : ∀ p ∈ r.delivered, r.sockets[p.outlet]? = some p.client

theorem Inv.keepsApart {r : Relay} (h : r.Inv) : r.KeepsApart where
  clients_nodup := h.clients_nodup
  outlets_nodup := by
    apply List.Nodup.map_on _ (List.Nodup.of_map _ h.clients_nodup)
    rintro ⟨client, outlet⟩ hentry ⟨client', outlet'⟩ hentry' hsame
    obtain ⟨l, hl, rfl, -⟩ := h.loop_of_entry hentry
    obtain ⟨l', hl', rfl, -⟩ := h.loop_of_entry hentry'
    have houtlet : outlet = outlet' := hsame
    subst houtlet
    cases hl.symm.trans hl'
    rfl
  socket_of_loop := h.socket_of_loop
  one_loop := by
    intro client outlet hentry
    obtain ⟨l, hl, rfl, hstays⟩ := h.loop_of_entry hentry
    obtain ⟨houtlet, hsocket⟩ := h.socket_of_loop hl
    refine ⟨hsocket, outlet, ⟨l, hl, houtlet, hstays⟩, ?_⟩
    rintro i ⟨l', hl', houtlet', -⟩
    exact (h.socket_of_loop hl').1.symm.trans houtlet'
  removal := by
    intro i l hl hleaving
    rw [(h.socket_of_loop hl).1]
    exact h.turn_table_of_leaves hl hleaving
  sent := h.sent
  delivered := h.delivered

/-- Whatever happens and in whatever order, a relay keeps its clients apart: an entry of the table
has a socket and a loop of its own, and a loop that leaves takes out nothing else.  What is passed on
is what came in, in the same order for each of the sockets.  Once the relay has stopped its table is
empty for good. -/
theorem run_keepsApart (hs : List Happening) :
    (run hs).KeepsApart ∧
      ((∀ e ∈ hs, e.Fits) →
        (run hs).forwards.Sublist (datagrams hs) ∧
          ∀ outlet, ((run hs).returns outlet).Sublist (repliesTo outlet hs)) ∧
      ((run hs).receiver = .stopped → ∀ more, (run (hs ++ more)).table = []) := by
  refine ⟨(inv_run hs).keepsApart, ?_, ?_⟩
  · intro hfit
    constructor
    · exact (List.sublist_append_left _ _).trans (carried_run hfit)
    · exact fun outlet => (List.sublist_append_left _ _).trans (answered_run hfit outlet)
  · intro hstopped more
    have hsound := (inv_run (hs ++ more)).receiver
    rw [receiver_run_append hstopped more] at hsound
    exact hsound

/-- A datagram may still go out on a socket whose loop has left meanwhile.  The next one opens a new
socket. -/
example (a b : SocketAddress) (hab : a ≠ b) (first second third : Bytes) :
    let r := run [.datagram a first, .opened true, .forwarded true, .datagram b first, .opened true,
      .forwarded true, .turn 0 .idle, .datagram a second, .turn 0 .left, .forwarded true,
      .datagram a third, .opened true]
    r.table = [(a, 2), (b, 1)] ∧ r.sent.map (·.outlet) = [0, 1, 0] := by
  simp [run, start, step, receive, register, turn, outlet?, without, Waiter.after, hab, hab.symm,
    ReplyLoop.passage?]

end Relay

end MeshRegistry.Proxy
