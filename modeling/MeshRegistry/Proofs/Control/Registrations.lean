import MeshRegistry.Control.Run
import MeshRegistry.Proofs.Channel.Calls
import MeshRegistry.Proofs.CommandLine.Typed
import MeshRegistry.Proofs.Registration.Sockets

/-!
# Endpoints registered by an operator

What an operator types for the two sides of an endpoint is what is registered, apart from the link that
an IPv6 address may belong to.
-/

namespace MeshRegistry.Control

open CommandLine (Environment Gives exists_of_bind_eq_ok)

/-! ## The command line -/

theorem takesValue_rootSpec : ∀ o ∈ rootSpec.options, o.takesValue = true := by
  simp [rootSpec, CommandLine.Opt.text]

theorem takesValue_endpointSpec : ∀ o ∈ endpointSpec.options, o.takesValue = true := by
  simp [endpointSpec, CommandLine.Opt.text, CommandLine.Opt.checked]

theorem of_required {α : Type} {o : Option α} {a : α} (h : required o = .ok a) : o = some a := by
  cases o with
  | none => cases h
  | some b =>
      cases h
      rfl

theorem endpointRequest_eq_ok {p : CommandLine.Progress} {action : Action} {q : Request}
    (h : endpointRequest p action = .ok q) :
    ∃ f b frontend backend,
      p.value? "frontend" = some f ∧ SocketAddress.parse? f.toList = some frontend ∧
      p.value? "backend" = some b ∧ SocketAddress.parse? b.toList = some backend ∧
      q = (Request.ofSockets frontend backend q.service q.environment q.mode).withAction action := by
  obtain ⟨frontend, hfrontend, h⟩ := exists_of_bind_eq_ok h
  obtain ⟨backend, hbackend, h⟩ := exists_of_bind_eq_ok h
  obtain ⟨service, -, h⟩ := exists_of_bind_eq_ok h
  obtain ⟨environment, -, h⟩ := exists_of_bind_eq_ok h
  cases h
  obtain ⟨f, hf, hparsed⟩ := Option.bind_eq_some_iff.1 (of_required hfrontend)
  obtain ⟨b, hb, hparsed'⟩ := Option.bind_eq_some_iff.1 (of_required hbackend)
  exact ⟨f, b, frontend, backend, hf, hparsed, hb, hparsed', rfl⟩

theorem readCommand_eq_submit {name : String} {args : List CommandLine.Argument} {q : Request}
    (h : readCommand name args = .ok (.submit q)) (hq : q.action = .register) :
    name = "register" ∧ ∃ p, endpointSpec.read args = .ok p ∧ endpointRequest p .register = .ok q := by
  unfold readCommand at h
  split at h
  case h_4 =>
    obtain ⟨p, hread, h⟩ := exists_of_bind_eq_ok h
    obtain ⟨q', hrequest, h⟩ := exists_of_bind_eq_ok h
    cases h
    exact ⟨rfl, p, hread, hrequest⟩
  case h_5 =>
    obtain ⟨p, -, h⟩ := exists_of_bind_eq_ok h
    obtain ⟨q', hrequest, h⟩ := exists_of_bind_eq_ok h
    cases h
    obtain ⟨-, -, frontend, backend, -, -, -, -, hrequested⟩ := endpointRequest_eq_ok hrequest
    rw [hrequested] at hq
    cases hq
  case h_3 =>
    obtain ⟨p, -, h⟩ := exists_of_bind_eq_ok h
    obtain ⟨service, -, h⟩ := exists_of_bind_eq_ok h
    cases h
  case h_1 => cases hread : (plainSpec 0).read args <;> rw [hread] at h <;> cases h
  case h_2 => cases hread : (plainSpec 0).read args <;> rw [hread] at h <;> cases h
  case h_6 => cases h

theorem read_eq_ok {env : Environment} {args : List String} {i : Invocation}
    (h : Invocation.read env args = .ok i) :
    ∃ p name behind, rootSpec.scan .start (args.map .text) = .ok (p, some (name, behind)) ∧
      readCommand name behind = .ok i.command := by
  obtain ⟨⟨p, found⟩, hscan, h⟩ := exists_of_bind_eq_ok h
  cases found with
  | none =>
      obtain ⟨p', -, h⟩ := exists_of_bind_eq_ok h
      cases h
  | some command =>
      obtain ⟨name, behind⟩ := command
      obtain ⟨command, hcommand, h⟩ := exists_of_bind_eq_ok h
      obtain ⟨p', -, h⟩ := exists_of_bind_eq_ok h
      cases h
      exact ⟨p, name, behind, hscan, hcommand⟩

/-- The command to register an endpoint is typed with the two addresses that the request is about. -/
theorem typed_of_register {env : Environment} {args : List String} {i : Invocation} {q : Request}
    (hread : Invocation.read env args = .ok i) (hi : i.command = .submit q)
    (hq : q.action = .register) :
    ∃ front behind f b frontend backend,
      args = front ++ "register" :: behind ∧
      Gives behind "frontend" f ∧ SocketAddress.parse? f.toList = some frontend ∧
      Gives behind "backend" b ∧ SocketAddress.parse? b.toList = some backend ∧
      q = (Request.ofSockets frontend backend q.service q.environment q.mode).withAction .register := by
  obtain ⟨p, name, behind, hscan, hcommand⟩ := read_eq_ok hread
  rw [hi] at hcommand
  obtain ⟨rfl, p', hbehind, hrequest⟩ := readCommand_eq_submit hcommand hq
  obtain ⟨front, texts, rfl, hargs⟩ :=
    CommandLine.exists_of_scan_eq_some takesValue_rootSpec hscan
  obtain ⟨f, b, frontend, backend, hf, hfrontend, hb, hbackend, hrequested⟩ :=
    endpointRequest_eq_ok hrequest
  exact ⟨front, texts, f, b, frontend, backend, hargs,
    CommandLine.gives_of_value? takesValue_endpointSpec hbehind hf, hfrontend,
    CommandLine.gives_of_value? takesValue_endpointSpec hbehind hb, hbackend, hrequested⟩

/-! ## What is registered -/

theorem get?_answer_of_toEndpoint {q : Request} {e : Endpoint} (hq : q.action = .register)
    (he : q.toEndpoint = .ok e) (r : Registry) : (r.answer q).2.get? q.key.text = some e := by
  have haccepted : q.Accepted := .inr ⟨hq, Request.exists_toEndpoint_iff.1 ⟨e, he⟩⟩
  rw [Registry.answer_eq, Registry.get?_after_of_accepted haccepted, if_pos rfl]
  exact Request.stored?_eq_some_iff.2 ⟨hq, he⟩

theorem run_submit {i : Invocation} {q : Request} {e : Endpoint} (hi : i.command = .submit q)
    (hq : q.action = .register) (he : q.toEndpoint = .ok e) (hfits : Channel.Fits q) (net : Network)
    (r : Registry) (n : Nat) (arrived : List Request) :
    i.run net ⟨.registry r, n, arrived⟩ =
      (.ok ["Registered"], ⟨.registry (r.answer q).2, n + 1, arrived ++ [q]⟩) := by
  have haccepted : q.Accepted := .inr ⟨hq, Request.exists_toEndpoint_iff.1 ⟨e, he⟩⟩
  obtain ⟨key, hkey⟩ := Request.exists_outcome_iff.2 haccepted
  simp only [Invocation.run, hi, Channel.register_registry _ _ hfits, Channel.accepted_reply, hkey, hq,
    Registry.answer_eq]
  rfl

/-- The endpoint that an operator registers has the addresses that were typed, without the links they
belong to, and its listener is shown with the first of them.  Nothing is lost just when there is no
link. -/
theorem register_stores_unlinked {env : Environment} {args : List String} {i : Invocation}
    {q : Request} {mode : ProxyMode} (hread : Invocation.read env args = .ok i)
    (hi : i.command = .submit q) (hq : q.action = .register)
    (hmode : ProxyMode.parse q.mode = .ok mode) :
    ∃ front behind f b frontend backend,
      args = front ++ "register" :: behind ∧
      Gives behind "frontend" f ∧ SocketAddress.parse? f.toList = some frontend ∧
      Gives behind "backend" b ∧ SocketAddress.parse? b.toList = some backend ∧
      let e : Endpoint := ⟨frontend.unlinked, backend.unlinked, q.service, q.environment, mode⟩
      (∀ r : Registry, (r.answer q).2.get? q.key.text = some e) ∧
      (Channel.Fits q → ∀ (net : Network) (r : Registry) (n : Nat) (arrived : List Request),
        i.run net ⟨.registry r, n, arrived⟩ =
          (.ok ["Registered"], ⟨.registry (r.answer q).2, n + 1, arrived ++ [q]⟩)) ∧
      (Discovery.listenerFor e).address = "tcp://" ++ frontend.unlinked.text ∧
      (e.frontend = frontend ↔ frontend.link = 0) ∧ (e.backend = backend ↔ backend.link = 0) := by
  obtain ⟨front, behind, f, b, frontend, backend, hargs, hf, hfrontend, hb, hbackend, hrequest⟩ :=
    typed_of_register hread hi hq
  have he : q.toEndpoint =
      .ok ⟨frontend.unlinked, backend.unlinked, q.service, q.environment, mode⟩ := by
    rw [hrequest, Request.toEndpoint_ofSockets, hmode]
    rfl
  exact ⟨front, behind, f, b, frontend, backend, hargs, hf, hfrontend, hb, hbackend,
    get?_answer_of_toEndpoint hq he, run_submit hi hq he, rfl, SocketAddress.unlinked_eq_iff,
    SocketAddress.unlinked_eq_iff⟩

/-! ## An address on a link -/

/-- The frontend belongs to the third link. -/
def linkedArguments : List String :=
  ["register", "--frontend", "[fe80::1%3]:80", "--backend=172.17.0.2:80", "--service", "web",
    "--env=prod"]

def linkedRequest : Request where
  frontendAddr := "fe80::1"
  frontendPort := 80
  backendAddr := "172.17.0.2"
  backendPort := 80
  service := "web"
  environment := "prod"
  mode := "http"
  action := .register

theorem read_linkedArguments :
    Invocation.read .empty linkedArguments =
      .ok ⟨.submit linkedRequest, standardApi, Channel.standardSocket⟩ := by
  decide +kernel

theorem register_stores_unlinked_linked :
    ∃ (behind : List String) (f : String) (frontend backend : SocketAddress),
      Gives behind "frontend" f ∧ SocketAddress.parse? f.toList = some frontend ∧
      (Registry.empty.answer linkedRequest).2.get? "web-prod-80" =
        some ⟨frontend.unlinked, backend.unlinked, "web", "prod", .http⟩ := by
  have hkey : linkedRequest.key.text = "web-prod-80" := by decide
  obtain ⟨-, behind, f, -, frontend, backend, -, hf, hfrontend, -, -, hstored, -⟩ :=
    register_stores_unlinked read_linkedArguments rfl rfl
      (show ProxyMode.parse "http" = .ok .http by decide)
  exact ⟨behind, f, frontend, backend, hf, hfrontend, by rw [← hkey, hstored]; rfl⟩

def linkLocal : Ipv6 :=
  ⟨[0xFE80, 0, 0, 0, 0, 0, 0, 1], rfl⟩

theorem toEndpoint_linkedRequest : linkedRequest.toEndpoint =
    .ok ⟨.v6 linkLocal 80 0, .v4 ⟨172, 17, 0, 2⟩ 80, "web", "prod", .http⟩ := by
  decide +kernel

/-- The link of a frontend is lost, and its listener is shown without it. -/
theorem not_all_links_are_kept :
    ∃ (i : Invocation) (q : Request) (frontend : SocketAddress) (e : Endpoint),
      Invocation.read .empty linkedArguments = .ok i ∧ i.command = .submit q ∧
      SocketAddress.parse? "[fe80::1%3]:80".toList = some frontend ∧
      (Registry.empty.answer q).2.get? q.key.text = some e ∧ e.frontend ≠ frontend ∧
      (Discovery.listenerFor e).address ≠ "tcp://" ++ frontend.text := by
  refine ⟨_, linkedRequest, .v6 linkLocal 80 3, _, read_linkedArguments, rfl, ?_,
    get?_answer_of_toEndpoint rfl toEndpoint_linkedRequest .empty, ?_, ?_⟩
  · decide +kernel
  · decide
  · decide +kernel

end MeshRegistry.Control
