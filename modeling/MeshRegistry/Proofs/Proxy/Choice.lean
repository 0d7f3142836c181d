import MeshRegistry.Proofs.Proxy.Fleet
import MeshRegistry.Proxy.Flow

/-!
# Which container names a mapping

The container that a registrant finds is the first of the listing that publishes its port, over whatever
protocol.  When one container alone publishes the port over TCP, that one is found unless another stands
in front of it that publishes the same number over a different protocol.
-/

namespace MeshRegistry.Proxy

def Container.publishesOver (c : Container) (kind : PortKind) (port : Port) : Bool :=
  c.ports.any fun p => p.publicPort == some port && p.kind == some kind

theorem Container.publishes_of_publishesOver {c : Container} {kind : PortKind} {port : Port}
    (h : c.publishesOver kind port = true) : c.publishes port = true := by
  simp only [publishesOver, publishes, List.any_eq_true, Bool.and_eq_true] at h ⊢
  obtain ⟨p, hp, hport, -⟩ := h
  exact ⟨p, hp, hport⟩

section Listing

variable {before after : List Container} {c first : Container} {port : Port}

/-- The first container that publishes a port is one that is known to do so, or stands in front of it. -/
theorem find?_publishes (hc : c.publishes port = true) :
    ∃ first, (before ++ c :: after).find? (·.publishes port) = some first ∧
      ((∀ d ∈ before, d.publishes port = false) ∧ first = c ∨
        first ∈ before ∧ first.publishes port = true) := by
  rw [List.find?_append]
  cases hbefore : before.find? (·.publishes port) with
  | none =>
      rw [List.find?_eq_none] at hbefore
      exact ⟨c, by simp [hc], .inl ⟨fun d hd => by simpa using hbefore d hd, rfl⟩⟩
  | some first =>
      have hpublishes : first.publishes port = true := by simpa using List.find?_some hbefore
      exact ⟨first, rfl, .inr ⟨List.mem_of_find?_eq_some hbefore, hpublishes⟩⟩

theorem lookup_of_find? {listing : List Container}
    (h : listing.find? (·.publishes port) = some first) : lookup listing port = .ok first.toLabels := by
  rw [lookup, labelsForPort?, h]
  rfl

end Listing

/-- All that a registrant sends is about the labels it found. -/
theorem registers_found {r : Registrant} {lookup : Except ProxyError Labels} {l : Labels}
    (hl : lookup = .ok l) :
    (r.follow [.graceOver, .found lookup]).sent = [r.registration l] ∧
      ∀ hs, (∀ h ∈ hs, h.Agrees lookup) → ∀ q ∈ (r.follow hs).sent,
        q.service = l.service ∧ q.environment = l.environment ∧ q.mode = l.mode := by
  subst hl
  refine ⟨rfl, fun hs hagrees q hq => ?_⟩
  obtain ⟨l', hl', hcopy⟩ := (onCourse_follow hagrees).of_mem_sent hq
  cases hl'
  rcases hcopy with rfl | rfl <;> exact ⟨rfl, rfl, rfl⟩

/-- A mapping of TCP is registered under the labels of the first container in the listing that publishes
its port.  If one container alone publishes it over TCP, these are the labels of that container as long as
no container in front of it publishes the port, and otherwise of one that publishes it over another
protocol. -/
theorem registers_first_publisher {listing before after : List Container} {c : Container} {port : Port}
    (hlisting : listing = before ++ c :: after) (hc : c.publishesOver .tcp port = true)
    (honly : ∀ d ∈ before ++ after, d.publishesOver .tcp port = false) :
    ∃ first, listing.find? (·.publishes port) = some first ∧
      (∀ (bind : Binder) (frontend backend : SocketAddress) (policy : RetryPolicy) (reload : Bool),
        frontend.port = port →
        ∃ r : Registrant, Flow.ofTransport bind .tcp frontend backend policy reload =
            .ok (.registration r) ∧
          (r.follow [.graceOver, .found (lookup listing r.frontend.port)]).sent =
            [r.registration first.toLabels] ∧
          ∀ hs, (∀ h ∈ hs, h.Agrees (lookup listing r.frontend.port)) → ∀ q ∈ (r.follow hs).sent,
            q.service = first.toLabels.service ∧ q.environment = first.toLabels.environment ∧
              q.mode = first.toLabels.mode) ∧
      ((∀ d ∈ before, d.publishes port = false) → first = c) ∧
      (first ≠ c → first ∈ before ∧ first.publishes port = true ∧
        first.publishesOver .tcp port = false) := by
  obtain ⟨first, hfirst, hplace⟩ :=
    @find?_publishes before after c port (Container.publishes_of_publishesOver hc)
  rw [← hlisting] at hfirst
  refine ⟨first, hfirst, ?_, ?_, ?_⟩
  · rintro bind frontend backend policy reload rfl
    exact ⟨⟨frontend, backend, policy, reload⟩, rfl, registers_found (lookup_of_find? hfirst)⟩
  · intro hfree
    rcases hplace with ⟨-, rfl⟩ | ⟨hmem, hpublishes⟩
    · rfl
    · rw [hfree first hmem] at hpublishes
      cases hpublishes
  · intro hother
    rcases hplace with ⟨-, hsame⟩ | ⟨hmem, hpublishes⟩
    · exact absurd hsame hother
    · exact ⟨hmem, hpublishes, honly first (List.mem_append_left after hmem)⟩

/-! ## Two containers on one port -/

/-- A container that publishes port 5353 over one protocol. -/
def publisher (kind : PortKind) (service : String) : Container where
  ports := [⟨53, some 5353, some kind⟩]
  labels := (∅ : Std.ExtTreeMap String String).insert "ServiceName" service

theorem service_publisher (kind : PortKind) (service : String) :
    (publisher kind service).toLabels.service = service := by
  simp [Container.toLabels, Container.label, publisher]

def sharedPort : List Container :=
  [publisher .udp "dns", publisher .tcp "web"]

theorem registers_first_publisher_sharedPort :
    (publisher .tcp "web").publishesOver .tcp 5353 = true ∧
      (∀ d ∈ [publisher .udp "dns"], d.publishesOver .tcp 5353 = false) ∧
      ∃ r : Registrant, (r.follow [.graceOver, .found (lookup sharedPort 5353)]).sent =
        [r.registration (publisher .udp "dns").toLabels] := by
  have hc : (publisher .tcp "web").publishesOver .tcp 5353 = true := by decide
  have honly : ∀ d ∈ [publisher .udp "dns"], d.publishesOver .tcp 5353 = false := by decide
  obtain ⟨first, hfirst, hregisters, -⟩ :=
    @registers_first_publisher sharedPort [publisher .udp "dns"] [] _ 5353 rfl hc honly
  have hudp : sharedPort.find? (·.publishes 5353) = some (publisher .udp "dns") := rfl
  cases hfirst.symm.trans hudp
  obtain ⟨r, hflow, hsent, -⟩ := hregisters .ok (.v4 ⟨127, 0, 0, 1⟩ 5353) (.v4 ⟨172, 17, 0, 2⟩ 53)
    .standard false rfl
  cases hflow
  exact ⟨hc, honly, _, hsent⟩

/-- The labels that are found are those of a container that publishes the port over UDP. -/
theorem not_all_mappings_have_their_labels :
    ¬ ∀ (before after : List Container) (c : Container) (port : Port),
      c.publishesOver .tcp port = true →
        (∀ d ∈ before ++ after, d.publishesOver .tcp port = false) →
          labelsForPort? (before ++ c :: after) port = some c.toLabels := by
  intro h
  have hfound := h [publisher .udp "dns"] [] (publisher .tcp "web") 5353 (by decide) (by decide)
  have hudp : labelsForPort? sharedPort 5353 = some (publisher .udp "dns").toLabels := rfl
  have hsame := Option.some.inj (hudp.symm.trans hfound)
  have hservice := congrArg Labels.service hsame
  rw [service_publisher, service_publisher] at hservice
  exact absurd hservice (by decide)

end MeshRegistry.Proxy
