import MeshRegistry.Proofs.Proxy.Course
import MeshRegistry.Proofs.Registration.Acceptance
import MeshRegistry.Proofs.Registration.Sockets
import MeshRegistry.Proofs.Text.Case

/-!
# From labels to endpoints

A registrant spells its two addresses out and folds the mode of its container, and the registry reads
both again.  The endpoint that comes of it has the addresses of the registrant and the mode that the
label of the container names as it stands.
-/

namespace MeshRegistry

namespace SocketAddress

@[simp] theorem ip_ofIp (ip : Ip) (port : Port) : (ofIp ip port).ip = ip := by
  cases ip <;> rfl

@[simp] theorem port_ofIp (ip : Ip) (port : Port) : (ofIp ip port).port = port := by
  cases ip <;> rfl

end SocketAddress

/-! ## Modes -/

namespace ProxyMode

theorem ofList_eq_iff {s : List Char} {t : String} : String.ofList s = t ↔ s = t.toList := by
  constructor
  · rintro rfl
    rw [String.toList_ofList]
  · rintro rfl
    rw [String.ofList_toList]

/-- The words that name a mode are spelled in ASCII and without `k`. -/
theorem spelling_of_word : ∀ word ∈ ["", "http", "tcp"], ∀ c ∈ word.toList,
    c.toNat < 0x80 ∧ c ≠ 'k' := by
  simp

/-- Folding all capitals does not change which mode a text names. -/
theorem toOption_parse_lower (s : String) :
    (parse (String.ofList (Text.lower s.toList))).toOption = (parse s).toOption := by
  have hword : ∀ word ∈ ["", "http", "tcp"],
      (Text.lowerAscii (Text.trim (Text.lower s.toList)) = word.toList ↔
        Text.lowerAscii (Text.trim s.toList) = word.toList) :=
    fun word hword => Text.lowerAscii_trim_lower_iff (spelling_of_word word hword) s.toList
  simp only [parse, ofList_eq_iff, String.toList_ofList, hword "" (by decide),
    hword "http" (by decide), hword "tcp" (by decide)]
  split
  · rfl
  · split <;> rfl

end ProxyMode

namespace Proxy

/-- The mode that is asked for is the one that the label of the container names. -/
theorem Container.toOption_parse_mode (c : Container) :
    (ProxyMode.parse c.mode).toOption = (ProxyMode.parse (c.label "ProxyMode")).toOption := by
  rw [← ProxyMode.toOption_parse_lower (c.label "ProxyMode"), Container.mode]
  split
  next hempty =>
    rw [String.isEmpty_iff] at hempty
    rw [hempty]
    decide
  next => rfl

theorem Container.parse_mode_toLabels_iff (c : Container) (mode : ProxyMode) :
    ProxyMode.parse c.toLabels.mode = .ok mode ↔
      ProxyMode.parse (c.label "ProxyMode") = .ok mode := by
  have hoption := c.toOption_parse_mode
  rw [toLabels]
  cases hasked : ProxyMode.parse c.mode <;> cases hlabel : ProxyMode.parse (c.label "ProxyMode") <;>
    simp_all [Except.toOption]

/-! ## Endpoints -/

/-- The endpoint that a registration describes: the two addresses, without the link they belong to,
the labels, and the mode that is asked for. -/
def Registrant.endpoint (r : Registrant) (l : Labels) (mode : ProxyMode) : Endpoint where
  frontend := .ofIp r.frontend.ip r.frontend.port
  backend := .ofIp r.backend.ip r.backend.port
  service := l.service
  environment := l.environment
  mode := mode

theorem toEndpoint_registration (r : Registrant) (l : Labels) :
    (r.registration l).toEndpoint = (ProxyMode.parse l.mode).map (r.endpoint l) :=
  Request.toEndpoint_ofSockets r.frontend r.backend l.service l.environment l.mode .register

/-- What a registration stores when it is accepted. -/
theorem exists_stored?_registration {r : Registrant} {l : Labels} (h : (r.registration l).Accepted) :
    ∃ mode, ProxyMode.parse l.mode = .ok mode ∧
      (r.registration l).stored? = some (r.endpoint l mode) := by
  obtain ⟨e, he⟩ := (Request.exists_stored?_iff h).2 rfl
  have hdescribed := (Request.stored?_eq_some_iff.1 he).2
  rw [toEndpoint_registration] at hdescribed
  cases hmode : ProxyMode.parse l.mode with
  | error reason =>
      rw [hmode] at hdescribed
      cases hdescribed
  | ok mode =>
      rw [hmode] at hdescribed
      cases hdescribed
      exact ⟨mode, rfl, he⟩

end Proxy

end MeshRegistry
