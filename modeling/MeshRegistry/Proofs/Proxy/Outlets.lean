import Mathlib.Data.List.Induction
import Mathlib.Data.List.Nodup
import MeshRegistry.Proxy.Relay

/-!
# What a relay keeps apart

A loop that waits for replies takes its client out of the table, whichever socket stands there by
then.  That this is its own socket, and never one that was opened for the client later, rests on one
fact: as long as datagrams are received, the socket of a loop that is not gone stands in the table,
so that no other is opened for its client meanwhile.
-/

namespace MeshRegistry.Proxy

open Text (Bytes)

/-! ## The turn of one loop -/

/-- A loop is gone once it has taken its client out of the table, and not before. -/
theorem Waiter.after_eq_gone {isStopRequested : Bool} {w : Waiter} {t : Turn} :
    w.after isStopRequested t = .gone ↔ w = .gone ∨ w = .leaving ∧ t = .left := by
  fun_cases Waiter.after isStopRequested w t <;> grind

theorem ReplyLoop.of_passage? {l : ReplyLoop} {t : Turn} {p : Passage} (h : l.passage? t = some p) :
    p = ⟨l.client, l.outlet, p.payload⟩ := by
  unfold passage? at h
  split at h <;> cases h
  rfl

/-- What the loop that receives from clients relies on where it stands. -/
def Receiver.Sound (table : List (SocketAddress × Outlet)) (sockets : List SocketAddress) :
    Receiver → Prop
  | .ready => True
  | .opening client _ => ∀ outlet, (client, outlet) ∉ table
  | .sending client outlet _ => sockets[outlet]? = some client
  | .stopped => table = []

theorem Receiver.Sound.mono {table table' : List (SocketAddress × Outlet)}
    {sockets : List SocketAddress} {receiver : Receiver} (h : receiver.Sound table sockets)
    (hsubset : table' ⊆ table) : receiver.Sound table' sockets := by
  cases receiver with
  | ready => exact trivial
  | opening client payload => exact fun outlet hmem => h outlet (hsubset hmem)
  | sending client outlet payload => exact h
  | stopped =>
      have hempty : table = [] := h
      rw [hempty] at hsubset
      exact List.subset_nil.1 hsubset

namespace Relay

/-! ## The steps -/

/-- All that a step can come to. -/
inductive Steps (r : Relay) : Happening → Relay → Prop where
  | received {client : SocketAddress} {payload : Bytes} (hready : r.receiver = .ready) :
      Steps r (.datagram client payload) (r.receive client (payload.take maxDatagram))
  | registered {client : SocketAddress} {payload : Bytes}
      (hopening : r.receiver = .opening client payload) :
      Steps r (.opened true) (r.register client payload)
  | forwarded {client : SocketAddress} {outlet : Outlet} {payload : Bytes}
      (hsending : r.receiver = .sending client outlet payload) :
      Steps r (.forwarded true)
        { r with receiver := .ready, sent := r.sent ++ [⟨client, outlet, payload⟩] }
  | dropped {e : Happening} (hreceiving : r.receiver ≠ .stopped) :
      Steps r e { r with receiver := .ready }
  | asked : Steps r .stopRequested { r with stopRequested := true }
  | stopped (hready : r.receiver = .ready) (hasked : r.stopRequested = true) :
      Steps r .stopNoticed { r with receiver := .stopped, table := [] }
  | turn {index : Nat} {t : Turn} : Steps r (.turn index t) (r.turn index t)
  | unmoved {e : Happening} : Steps r e r

theorem steps_step (r : Relay) (e : Happening) : Steps r e (r.step e) := by
  fun_cases step r e with
  | case1 client payload hready => exact .received hready
  | case2 client payload hopening => exact .registered hopening
  | case3 client payload hopening => exact .dropped (by simp [hopening])
  | case4 client outlet payload hsending => exact .forwarded hsending
  | case5 client outlet payload hsending => exact .dropped (by simp [hsending])
  | case6 => exact .asked
  | case7 hready hasked => exact .stopped hready hasked
  | case8 => exact .unmoved
  | case9 index t => exact .turn
  | case10 => exact .unmoved

theorem run_concat (hs : List Happening) (e : Happening) : run (hs ++ [e]) = (run hs).step e :=
  List.foldl_concat ..

/-! ## The table, the sockets and the loops -/

/-- How the parts of a relay belong together. -/
structure Inv (r : Relay) : Prop where
  clients_nodup : (r.table.map Prod.fst).Nodup
  length_loops : r.loops.length = r.sockets.length
  socket_of_loop : ∀ {i : Nat} {l : ReplyLoop}, r.loops[i]? = some l →
    l.outlet = i ∧ r.sockets[i]? = some l.client
  loop_of_entry : ∀ {client : SocketAddress} {outlet : Outlet}, (client, outlet) ∈ r.table →
    ∃ l, r.loops[outlet]? = some l ∧ l.client = client ∧ l.stage ≠ .gone
  entry_of_loop : r.receiver ≠ .stopped → ∀ {i : Nat} {l : ReplyLoop}, r.loops[i]? = some l →
    l.stage ≠ .gone → (l.client, i) ∈ r.table
  receiver : r.receiver.Sound r.table r.sockets
  sent : ∀ p ∈ r.sent, r.sockets[p.outlet]? = some p.client
  delivered : ∀ p ∈ r.delivered, r.sockets[p.outlet]? = some p.client

theorem inv_start : start.Inv where
  clients_nodup := List.nodup_nil
  length_loops := rfl
  socket_of_loop := by simp [start]
  loop_of_entry := by simp [start]
  entry_of_loop := by simp [start]
  receiver := trivial
  sent := by simp [start]
  delivered := by simp [start]

theorem mem_of_outlet? {r : Relay} {client : SocketAddress} {outlet : Outlet}
    (h : r.outlet? client = some outlet) : (client, outlet) ∈ r.table := by
  obtain ⟨⟨client', outlet'⟩, hfind, rfl⟩ := Option.map_eq_some_iff.1 h
  have hclient : client' = client := by simpa using List.find?_some hfind
  rw [← hclient]
  exact List.mem_of_find?_eq_some hfind

theorem notMem_of_outlet? {r : Relay} {client : SocketAddress} (h : r.outlet? client = none)
    (outlet : Outlet) : (client, outlet) ∉ r.table := by
  have hnone := List.find?_eq_none.1 (Option.map_eq_none_iff.1 h)
  intro hmem
  exact hnone _ hmem (decide_eq_true rfl)

theorem without_eq_self {table : List (SocketAddress × Outlet)} {client : SocketAddress}
    (h : ∀ outlet, (client, outlet) ∉ table) : without table client = table := by
  apply List.filter_eq_self.2
  rintro ⟨client', outlet⟩ hmem
  apply decide_eq_true
  rintro rfl
  exact h outlet hmem

/-! A turn changes the stage of its loop. -/

theorem turn_of_loop {r : Relay} {index : Nat} {l : ReplyLoop} (hl : r.loops[index]? = some l)
    (t : Turn) :
    r.turn index t =
      { r with
        table := if l.stage = .leaving ∧ t = .left then without r.table l.client else r.table
        loops := r.loops.set index { l with stage := l.stage.after r.stopRequested t }
        delivered := r.delivered ++ (l.passage? t).toList } := by
  simp only [turn, hl]

theorem turn_of_none {r : Relay} {index : Nat} (hl : r.loops[index]? = none) (t : Turn) :
    r.turn index t = r := by
  simp only [turn, hl]

section Turn

variable (r : Relay) (index : Nat) (t : Turn)

@[simp]
theorem turn_receiver : (r.turn index t).receiver = r.receiver := by
  unfold turn
  split <;> rfl

@[simp]
theorem turn_sockets : (r.turn index t).sockets = r.sockets := by
  unfold turn
  split <;> rfl

@[simp]
theorem turn_sent : (r.turn index t).sent = r.sent := by
  unfold turn
  split <;> rfl

theorem turn_delivered :
    (r.turn index t).delivered =
      r.delivered ++ ((r.loops[index]?).bind (·.passage? t)).toList := by
  unfold turn
  split
  case h_1 hl =>
    rw [hl]
    exact (List.append_nil _).symm
  case h_2 l hl => rw [hl, Option.bind_some]

@[simp]
theorem length_turn_loops : (r.turn index t).loops.length = r.loops.length := by
  unfold turn
  split
  · rfl
  · exact List.length_set

theorem turn_loops (i : Nat) :
    (r.turn index t).loops[i]? =
      (r.loops[i]?).map fun l =>
        { l with stage := if i = index then l.stage.after r.stopRequested t else l.stage } := by
  cases hl : r.loops[index]? with
  | none =>
      rw [turn_of_none hl]
      by_cases hi : i = index
      · rw [hi, hl]
        rfl
      · simp only [hi, if_false]
        exact (congrFun Option.map_id _).symm
  | some l =>
      obtain ⟨hlt, -⟩ := List.getElem?_eq_some_iff.1 hl
      rw [turn_of_loop hl]
      by_cases hi : i = index
      · subst hi
        simp only [List.getElem?_set_self hlt, hl, Option.map_some, if_true]
      · simp only [List.getElem?_set_ne (Ne.symm hi), hi, if_false]
        exact (congrFun Option.map_id _).symm

theorem turn_table_sublist : (r.turn index t).table.Sublist r.table := by
  unfold turn
  split
  · exact List.Sublist.refl _
  · dsimp only
    split
    · exact List.filter_sublist
    · exact List.Sublist.refl _

/-- The table is that of before unless the loop leaves. -/
theorem turn_table_of_stays {r : Relay} {index : Nat} {t : Turn}
    (h : ¬ ∃ l, r.loops[index]? = some l ∧ l.stage = .leaving ∧ t = .left) :
    (r.turn index t).table = r.table := by
  unfold turn
  split
  case h_1 => rfl
  case h_2 l hl => exact if_neg fun hleaves => h ⟨l, hl, hleaves⟩

end Turn

theorem getElem?_concat {α : Type} {l : List α} {a b : α} {i : Nat} (h : (l ++ [a])[i]? = some b) :
    l[i]? = some b ∨ i = l.length ∧ b = a := by
  grind

namespace Inv

variable {r : Relay}

/-- A client has one socket in the table. -/
theorem outlet_unique (h : r.Inv) {client : SocketAddress} {o o' : Outlet}
    (ho : (client, o) ∈ r.table) (ho' : (client, o') ∈ r.table) : o = o' :=
  congrArg Prod.snd (List.inj_on_of_nodup_map h.clients_nodup ho ho' rfl)

/-- A loop that leaves takes out its own socket, though it looks for its client. -/
theorem turn_table_of_leaves (h : r.Inv) {index : Nat} {l : ReplyLoop}
    (hl : r.loops[index]? = some l) (hleaving : l.stage = .leaving) :
    (r.turn index .left).table = r.table.filter (·.2 ≠ index) := by
  have htaken : (r.turn index .left).table = without r.table l.client := by
    rw [turn_of_loop hl]
    exact if_pos ⟨hleaving, rfl⟩
  rw [htaken]
  apply List.filter_congr
  rintro ⟨client, outlet⟩ hmem
  rw [decide_eq_decide, not_iff_not]
  obtain ⟨l', hl', hclient, -⟩ := h.loop_of_entry hmem
  constructor
  · rintro rfl
    have hreceiving : r.receiver ≠ .stopped := by
      intro hstopped
      have hempty := h.receiver
      rw [hstopped] at hempty
      rw [show r.table = [] from hempty] at hmem
      exact List.not_mem_nil hmem
    have hstays : l.stage ≠ .gone := by simp [hleaving]
    exact h.outlet_unique hmem (h.entry_of_loop hreceiving hl hstays)
  · rintro rfl
    have hsame : l' = l := Option.some.inj (hl'.symm.trans hl)
    exact hclient.symm.trans (congrArg ReplyLoop.client hsame)

/-- After a turn a socket stands in the table unless its loop is gone then. -/
theorem mem_turn_table (h : r.Inv) {index : Nat} {t : Turn} {client : SocketAddress}
    {outlet : Outlet} (hentry : (client, outlet) ∈ r.table) :
    (client, outlet) ∈ (r.turn index t).table ↔
      ∀ l, (r.turn index t).loops[outlet]? = some l → l.stage ≠ .gone := by
  obtain ⟨l, hl, -, hstays⟩ := h.loop_of_entry hentry
  have hafter : (∀ l', (r.turn index t).loops[outlet]? = some l' → l'.stage ≠ .gone) ↔
      ¬ (outlet = index ∧ l.stage = .leaving ∧ t = .left) := by
    rw [turn_loops, hl, Option.map_some]
    simp only [Option.some.injEq, forall_eq']
    by_cases houtlet : outlet = index
    · simp only [houtlet, if_true, ne_eq, Waiter.after_eq_gone, hstays, false_or, true_and]
    · simp only [houtlet, if_false, ne_eq, hstays, false_and]
  rw [hafter]
  by_cases hleaves : ∃ l', r.loops[index]? = some l' ∧ l'.stage = .leaving ∧ t = .left
  · obtain ⟨l', hl', hleaving, rfl⟩ := hleaves
    rw [h.turn_table_of_leaves hl' hleaving, List.mem_filter, decide_eq_true_eq,
      and_iff_right hentry]
    apply not_congr
    constructor
    · rintro rfl
      have hsame : l' = l := Option.some.inj (hl'.symm.trans hl)
      exact ⟨rfl, hsame ▸ hleaving, rfl⟩
    · exact And.left
  · rw [turn_table_of_stays hleaves]
    refine iff_of_true hentry ?_
    rintro ⟨rfl, hleaves'⟩
    exact hleaves ⟨l, hl, hleaves'⟩

/-! ### Each step -/

theorem withReceiver (h : r.Inv) (hreceiving : r.receiver ≠ .stopped) {receiver : Receiver}
    (hsound : receiver.Sound r.table r.sockets) : { r with receiver := receiver }.Inv :=
  { h with
    entry_of_loop := fun _ => h.entry_of_loop hreceiving
    receiver := hsound }

theorem receive (h : r.Inv) (hreceiving : r.receiver ≠ .stopped) (client : SocketAddress)
    (payload : Bytes) : (r.receive client payload).Inv := by
  unfold Relay.receive
  apply h.withReceiver hreceiving
  cases houtlet : r.outlet? client with
  | none => exact notMem_of_outlet? houtlet
  | some outlet =>
      obtain ⟨l, hl, hclient, -⟩ := h.loop_of_entry (mem_of_outlet? houtlet)
      rw [← hclient]
      exact (h.socket_of_loop hl).2

theorem register (h : r.Inv) {client : SocketAddress} {payload payload' : Bytes}
    (hopening : r.receiver = .opening client payload) : (r.register client payload').Inv := by
  have hnew : ∀ outlet, (client, outlet) ∉ r.table := by
    have hsound := h.receiver
    rwa [hopening] at hsound
  have hreceiving : r.receiver ≠ .stopped := by simp [hopening]
  have hkept : ∀ {outlet : Outlet} {c : SocketAddress}, r.sockets[outlet]? = some c →
      (r.sockets ++ [client])[outlet]? = some c := by
    intro outlet c hsocket
    obtain ⟨hlt, -⟩ := List.getElem?_eq_some_iff.1 hsocket
    rwa [List.getElem?_append_left hlt]
  have hlast : (r.sockets ++ [client])[r.sockets.length]? = some client :=
    List.getElem?_concat_length
  unfold Relay.register
  rw [without_eq_self hnew]
  refine ⟨?_, ?_, ?_, ?_, ?_, hlast, ?_, ?_⟩
  · apply List.nodup_cons.2 ⟨?_, h.clients_nodup⟩
    intro hmem
    obtain ⟨⟨client', outlet⟩, hentry, rfl⟩ := List.mem_map.1 hmem
    exact hnew outlet hentry
  · rw [List.length_append, List.length_append, h.length_loops]
    rfl
  · intro i l hl
    obtain hl | ⟨rfl, rfl⟩ := getElem?_concat hl
    · exact ⟨(h.socket_of_loop hl).1, hkept (h.socket_of_loop hl).2⟩
    · rw [h.length_loops]
      exact ⟨rfl, hlast⟩
  · intro c outlet hentry
    obtain hentry | hentry := List.mem_cons.1 hentry
    · cases hentry
      rw [← h.length_loops]
      exact ⟨_, List.getElem?_concat_length, rfl, Waiter.noConfusion⟩
    · obtain ⟨l, hl, hclient, hstays⟩ := h.loop_of_entry hentry
      obtain ⟨hlt, -⟩ := List.getElem?_eq_some_iff.1 hl
      refine ⟨l, ?_, hclient, hstays⟩
      rwa [List.getElem?_append_left hlt]
  · intro _ i l hl hstays
    obtain hl | ⟨rfl, rfl⟩ := getElem?_concat hl
    · exact List.mem_cons_of_mem _ (h.entry_of_loop hreceiving hl hstays)
    · rw [h.length_loops]
      exact List.mem_cons_self
  · exact fun p hp => hkept (h.sent p hp)
  · exact fun p hp => hkept (h.delivered p hp)

/-- What has been passed on may grow by what belongs to its client. -/
theorem forwarded (h : r.Inv) {client : SocketAddress} {outlet : Outlet} {payload : Bytes}
    (hsending : r.receiver = .sending client outlet payload) :
    ({ r with receiver := .ready, sent := r.sent ++ [⟨client, outlet, payload⟩] } : Relay).Inv := by
  have hreceiving : r.receiver ≠ .stopped := by simp [hsending]
  have hsocket : r.sockets[outlet]? = some client := by
    have hsound := h.receiver
    rwa [hsending] at hsound
  have hready : Receiver.Sound r.table r.sockets .ready := trivial
  refine { h.withReceiver hreceiving hready with sent := ?_ }
  intro p hp
  obtain hp | hp := List.mem_append.1 hp
  · exact h.sent p hp
  · rw [List.mem_singleton.1 hp]
    exact hsocket

theorem stop (h : r.Inv) : { r with receiver := .stopped, table := [] }.Inv where
  clients_nodup := List.nodup_nil
  length_loops := h.length_loops
  socket_of_loop := h.socket_of_loop
  loop_of_entry := fun hentry => absurd hentry List.not_mem_nil
  entry_of_loop := fun hreceiving => absurd rfl hreceiving
  receiver := rfl
  sent := h.sent
  delivered := h.delivered

theorem turn (h : r.Inv) (index : Nat) (t : Turn) : (r.turn index t).Inv := by
  have hsublist := r.turn_table_sublist index t
  refine ⟨h.clients_nodup.sublist (hsublist.map _), ?_, ?_, ?_, ?_, ?_, ?_, ?_⟩
  · rw [length_turn_loops, turn_sockets, h.length_loops]
  · intro i l' hl'
    rw [turn_loops, Option.map_eq_some_iff] at hl'
    obtain ⟨l, hl, rfl⟩ := hl'
    have hsocket := h.socket_of_loop hl
    rw [turn_sockets]
    exact hsocket
  · intro client outlet hentry
    have hbefore := hsublist.subset hentry
    obtain ⟨l, hl, hclient, -⟩ := h.loop_of_entry hbefore
    have hafter := r.turn_loops index t outlet
    rw [hl, Option.map_some] at hafter
    exact ⟨_, hafter, hclient, (h.mem_turn_table hbefore).1 hentry _ hafter⟩
  · intro hreceiving i l' hl' hstays
    rw [turn_receiver] at hreceiving
    have hl := hl'
    rw [turn_loops, Option.map_eq_some_iff] at hl
    obtain ⟨l, hl, rfl⟩ := hl
    have hbefore : l.stage ≠ .gone := by
      intro hgone
      apply hstays
      dsimp only
      rw [hgone, Waiter.after_eq_gone.2 (.inl rfl), ite_self]
    have hentry := h.entry_of_loop hreceiving hl hbefore
    apply (h.mem_turn_table hentry).2
    intro l'' hl''
    cases hl'.symm.trans hl''
    exact hstays
  · rw [turn_receiver, turn_sockets]
    exact h.receiver.mono hsublist.subset
  · rw [turn_sockets, turn_sent]
    exact h.sent
  · intro p hp
    rw [turn_delivered] at hp
    rw [turn_sockets]
    obtain hp | hp := List.mem_append.1 hp
    · exact h.delivered p hp
    · obtain ⟨l, hl, hpassage⟩ := Option.bind_eq_some_iff.1 (Option.mem_toList.1 hp)
      obtain ⟨houtlet, hsocket⟩ := h.socket_of_loop hl
      rw [ReplyLoop.of_passage? hpassage, houtlet]
      exact hsocket

theorem of_steps (h : r.Inv) {e : Happening} {r' : Relay} (hsteps : Steps r e r') : r'.Inv := by
  cases hsteps with
  | @received client payload hready => exact h.receive (by simp [hready]) client _
  | registered hopening => exact h.register hopening
  | dropped hreceiving => exact h.withReceiver hreceiving trivial
  | forwarded hsending => exact h.forwarded hsending
  | asked => exact { h with }
  | stopped => exact h.stop
  | @turn index t => exact h.turn index t
  | unmoved => exact h

end Inv

theorem inv_run (hs : List Happening) : (run hs).Inv := by
  induction hs using List.reverseRecOn with
  | nil => exact inv_start
  | append_singleton hs e ih =>
      rw [run_concat]
      exact ih.of_steps (steps_step _ e)

end Relay

end MeshRegistry.Proxy
