import MeshRegistry.Proofs.Channel.Calls
import MeshRegistry.Proofs.Proxy.Conduct
import MeshRegistry.Proofs.Proxy.Labels

/-!
# Reloads

A registrant that reloads makes one call to a registry that answers, and its run ends with the reply.
Which reply that is was settled by the label of its container before any letter of it was folded and
before the addresses were spelled out.
-/

namespace MeshRegistry

/-- A registry that was empty holds what was put in and nothing else. -/
theorem Registry.toList_put_empty (key : ServiceKey) (e : Endpoint) :
    (empty.put key e).toList = [(key.text, e)] := by
  have hlength : (empty.put key e).toList.length = 1 := by
    simp [toList, put, empty, Std.ExtTreeMap.size_insert]
  have hmem : (key.text, e) ∈ (empty.put key e).toList := by
    rw [mem_toList_iff, get?_put, if_pos rfl]
  obtain ⟨entry, hentry⟩ := List.length_eq_one_iff.1 hlength
  rw [hentry, List.mem_singleton] at hmem
  rw [hentry, hmem]

namespace Proxy

open Channel (Caller Fits)

/-! ## One answer ends a reload -/

variable {r : Registrant} {l : Labels}

/-- The stage at which a reply leaves a run that reloads. -/
def stageAfter (q : Request) : Stage :=
  match q.outcome with
  | .ok _ => .stopped
  | .error e => .failed .register (.registration (.rejected e.message))

theorem stage_step_accepted {run : Run} (hreload : run.registrant.reload = true) {q : Request}
    {n : Nat} (hstage : run.stage = .calling .register q n) :
    (run.step (.answered (Channel.accepted q.reply))).stage = stageAfter q := by
  rw [Channel.accepted_reply, stageAfter]
  cases q.outcome with
  | ok key => simp [Run.step, hstage, Run.accomplished, Run.enter, hreload]
  | error e =>
      have hsettled : (Channel.CallError.rejected e.message).isRetryable = false := rfl
      simp [Run.step, hstage, hsettled, RetryPolicy.shouldRetry]

theorem stageAfter_ne_calling (q : Request) :
    ∀ errand q' n, stageAfter q ≠ .calling errand q' n := by
  intro errand q' n
  rw [stageAfter]
  split <;> simp

theorem isOver_of_stageAfter {run : Run} {q : Request} (h : run.stage = stageAfter q) :
    run.IsOver := by
  rw [stageAfter] at h
  split at h
  · exact .inl h
  · exact .inr ⟨_, _, h⟩

theorem step_stopNoticed_of_isOver {run : Run} (hover : run.IsOver) :
    run.step .stopNoticed = run := by
  rcases hover with hstage | ⟨errand, e, hstage⟩ <;> simp [Run.step, hstage]

/-- The first call is the last. -/
theorem converse_of_reload {run : Run} (hreload : run.registrant.reload = true) {q : Request} {n : Nat}
    (hstage : run.stage = .calling .register q n) (hfits : Fits q) (caller : Caller) {attempts : Nat}
    (hattempts : 1 ≤ attempts) (registry : Registry) (made : Nat) (arrived : List Request) :
    run.converse caller attempts ⟨.registry registry, made, arrived⟩ =
      (run.step (.answered (Channel.accepted q.reply)),
        ⟨.registry (registry.after q), made + 1, arrived ++ [q]⟩) := by
  obtain ⟨k, rfl⟩ := Nat.exists_eq_add_of_le' hattempts
  have hsilent : ∀ errand q' m,
      (run.step (.answered (Channel.accepted q.reply))).stage ≠ .calling errand q' m := by
    rw [stage_step_accepted hreload hstage]
    exact stageAfter_ne_calling q
  rw [Run.converse_of_calling hstage, Channel.attempt_registry caller hfits,
    Run.converse_of_not_calling hsilent]

/-- A reload is over after one call, and the registry has carried the request out. -/
theorem run_of_reload (hreload : r.reload = true) {q : Request} (hq : r.registration l = q)
    (hfits : Fits q) (caller : Caller) (registry : Registry) (made : Nat) (arrived : List Request) :
    (r.run caller (.ok l) ⟨.registry registry, made, arrived⟩).1.stage = stageAfter q ∧
      (r.run caller (.ok l) ⟨.registry registry, made, arrived⟩).2 =
        ⟨.registry (registry.after q), made + 1, arrived ++ [q]⟩ := by
  have hcalling : (r.follow (firstHappenings (.ok l))).stage = .calling .register q 1 := by
    rw [← hq]
    rfl
  have hanswered := stage_step_accepted hreload hcalling
  have hover := isOver_of_stageAfter hanswered
  have hattempts : 1 ≤ r.policy.maxAttempts := Nat.le_max_right ..
  generalize hrun : r.run caller (.ok l) ⟨.registry registry, made, arrived⟩ = ended
  rw [run_eq, converse_of_reload hreload hcalling hfits caller hattempts] at hrun
  dsimp only at hrun
  rw [step_stopNoticed_of_isOver hover, Run.converse_of_not_calling
    (hanswered ▸ stageAfter_ne_calling q)] at hrun
  rw [← hrun]
  exact ⟨hanswered, rfl⟩

/-! ## What the registry holds then -/

theorem outcome_registration (r : Registrant) (l : Labels) :
    (r.registration l).outcome = (ProxyMode.parse l.mode).map fun _ => (r.registration l).key := by
  have haction : (r.registration l).action = .register := rfl
  rw [Request.outcome, haction]
  dsimp only
  rw [toEndpoint_registration]
  cases ProxyMode.parse l.mode <;> rfl

theorem after_registration (r : Registrant) (l : Labels) (registry : Registry) :
    registry.after (r.registration l) =
      match ProxyMode.parse l.mode with
      | .ok mode => registry.put (r.registration l).key (r.endpoint l mode)
      | .error _ => registry := by
  have haction : (r.registration l).action = .register := rfl
  rw [Registry.after, haction]
  dsimp only
  rw [toEndpoint_registration]
  cases ProxyMode.parse l.mode <;> rfl

theorem reload_of_named (hreload : r.reload = true) (hfits : Fits (r.registration l))
    {mode : ProxyMode} (hmode : ProxyMode.parse l.mode = .ok mode) (caller : Caller)
    (registry : Registry) :
    (r.run caller (.ok l) ⟨.registry registry, 0, []⟩).1.IsOver ∧
      (r.run caller (.ok l) ⟨.registry registry, 0, []⟩).1.result = .ok () ∧
      (r.run caller (.ok l) ⟨.registry registry, 0, []⟩).2.peer =
        .registry (registry.put (r.registration l).key (r.endpoint l mode)) := by
  obtain ⟨hstage, hline⟩ := run_of_reload hreload rfl hfits caller registry 0 []
  rw [stageAfter, outcome_registration, hmode] at hstage
  rw [after_registration, hmode] at hline
  obtain ⟨hover, hok⟩ := (Run.isOver_and_ok_iff _).2 hstage
  exact ⟨hover, hok, by rw [hline]⟩

theorem reload_of_unnamed (hreload : r.reload = true) (hfits : Fits (r.registration l))
    {e : RegistryError} (hmode : ProxyMode.parse l.mode = .error e) (caller : Caller)
    (registry : Registry) :
    (r.run caller (.ok l) ⟨.registry registry, 0, []⟩).1.IsOver ∧
      (r.run caller (.ok l) ⟨.registry registry, 0, []⟩).1.result =
        .error (.registration (.rejected e.message)) ∧
      (r.run caller (.ok l) ⟨.registry registry, 0, []⟩).2.peer = .registry registry := by
  obtain ⟨hstage, hline⟩ := run_of_reload hreload rfl hfits caller registry 0 []
  rw [stageAfter, outcome_registration, hmode] at hstage
  rw [after_registration, hmode] at hline
  obtain ⟨hover, herror⟩ := (Run.isOver_and_error_iff _ _).2 ⟨_, hstage⟩
  exact ⟨hover, herror, by rw [hline]⟩

/-- A reload ends well exactly when the label of the container names a mode as it stands.  The
registry, empty before, then holds the one endpoint that was asked for, and otherwise stays empty. -/
theorem run_reload_empty (frontend backend : Ip) (frontendPort backendPort : Port)
    (policy : RetryPolicy) (caller : Caller) {listing : List Container} {c : Container}
    (hfind : listing.find? (·.publishes frontendPort) = some c)
    (hfits : Fits (Registrant.registration
      ⟨.ofIp frontend frontendPort, .ofIp backend backendPort, policy, true⟩ c.toLabels)) :
    let r : Registrant := ⟨.ofIp frontend frontendPort, .ofIp backend backendPort, policy, true⟩
    let reload := r.run caller (lookup listing frontendPort) ⟨.registry .empty, 0, []⟩
    let key := ServiceKey.ofLabels (c.label "ServiceName") (c.label "EnvironmentName") frontendPort
    reload.1.IsOver ∧
      (reload.1.result = .ok () ↔ ∃ mode, ProxyMode.parse (c.label "ProxyMode") = .ok mode) ∧
      (∀ mode, ProxyMode.parse (c.label "ProxyMode") = .ok mode →
        ∃ registry, reload.2.peer = .registry registry ∧
          registry.toList = [(key.text,
            { frontend := .ofIp frontend frontendPort
              backend := .ofIp backend backendPort
              service := c.label "ServiceName"
              environment := c.label "EnvironmentName"
              mode := mode })]) ∧
      (∀ e, ProxyMode.parse (c.label "ProxyMode") = .error e →
        (∃ reason, reload.1.result = .error (.registration (.rejected reason))) ∧
          reload.2.peer = .registry .empty) := by
  intro r reload key
  have hlookup : lookup listing frontendPort = .ok c.toLabels := by
    rw [lookup, labelsForPort?, hfind]
    rfl
  have hreload : reload = r.run caller (.ok c.toLabels) ⟨.registry .empty, 0, []⟩ := by
    rw [← hlookup]
  have hkey : (r.registration c.toLabels).key = key := by
    simp [key, r, Registrant.registration, Registrant.request, Request.ofSockets, Request.withAction,
      Request.key, Container.toLabels]
  rw [hreload]
  cases hlabel : ProxyMode.parse (c.label "ProxyMode") with
  | ok mode =>
      obtain ⟨hover, hok, hpeer⟩ :=
        reload_of_named (r := r) rfl hfits ((c.parse_mode_toLabels_iff mode).2 hlabel) caller .empty
      refine ⟨hover, ⟨fun _ => ⟨mode, rfl⟩, fun _ => hok⟩, ?_, by simp⟩
      intro mode' hmode'
      cases hmode'
      refine ⟨_, hpeer, ?_⟩
      rw [Registry.toList_put_empty, hkey]
      simp [r, Registrant.endpoint, Container.toLabels]
  | error e =>
      cases hasked : ProxyMode.parse c.toLabels.mode with
      | ok mode => cases hlabel.symm.trans ((c.parse_mode_toLabels_iff mode).1 hasked)
      | error e' =>
          obtain ⟨hover, herror, hpeer⟩ := reload_of_unnamed (r := r) rfl hfits hasked caller .empty
          refine ⟨hover, ?_, by simp, fun _ _ => ⟨⟨_, herror⟩, hpeer⟩⟩
          simp [herror]

/-- A container whose mode stands between blanks of different kinds. -/
def spacedContainer : Container where
  ports := [⟨80, some 32768, some .tcp⟩]
  labels := .ofList [("ServiceName", "awesome-svc"), ("EnvironmentName", " "),
    ("ProxyMode", "\u00A0HtTp\u2003")]

/-- Its mapping leads from an address that is written with the digits of IPv4 to one that is written
with a gap. -/
theorem run_reload_empty_spacedContainer :
    let frontend : Ip := .v6 ⟨[0, 0, 0, 0, 0, 0xFFFF, 0x7F00, 1], rfl⟩
    let backend : Ip := .v6 ⟨[0x2001, 0xDB8, 0, 0, 1, 0, 0, 1], rfl⟩
    let reload := (Registrant.mk (.ofIp frontend 32768) (.ofIp backend 80) .standard true).run
      ⟨"/tmp/registry.sock", Channel.standardDeadline⟩ (lookup [spacedContainer] 32768)
      ⟨.registry .empty, 0, []⟩
    reload.1.result = .ok () ∧ ∃ registry, reload.2.peer = .registry registry ∧
      registry.toList = [("awesome-svc-unknown-32768",
        ⟨.ofIp frontend 32768, .ofIp backend 80, "awesome-svc", " ", .http⟩)] := by
  intro frontend backend reload
  have hlabel : ProxyMode.parse (spacedContainer.label "ProxyMode") = .ok .http := by
    decide +kernel
  have hfits : Fits (Registrant.registration
      ⟨.ofIp frontend 32768, .ofIp backend 80, .standard, true⟩ spacedContainer.toLabels) := by
    unfold Fits
    decide +kernel
  have hfind : [spacedContainer].find? (·.publishes 32768) = some spacedContainer := rfl
  obtain ⟨-, hok, hnamed, -⟩ := run_reload_empty frontend backend 32768 80 .standard
    ⟨"/tmp/registry.sock", Channel.standardDeadline⟩ hfind hfits
  exact ⟨hok.2 ⟨_, hlabel⟩, hnamed _ hlabel⟩

end Proxy

end MeshRegistry
