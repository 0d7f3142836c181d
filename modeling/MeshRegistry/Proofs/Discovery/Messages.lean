import MeshRegistry.Discovery.Listener
import MeshRegistry.Proofs.Json.Containers
import MeshRegistry.Proofs.Registration.Messages

/-!
# Documents as messages

A document is read back from the text it is written as.  Filters may stand inside one another, as far
as the nesting of containers allows it; the other documents are never nested that deep.
-/

namespace MeshRegistry.Discovery

open Json (Decoder Fields ReadsBack Value Values nesting_list_le_iff nesting_object_le_iff readsBack_text record_takes
  text_takes word16_takes word64_takes)

/-! ## Members that are not always written -/

theorem forall_mem_nonEmptyList {name : String} {items : List Value}
    {p : String × Value → Prop} :
    (∀ m ∈ nonEmptyList name items, p m) ↔ (items ≠ [] → p (name, .list items)) := by
  cases items <;> simp [nonEmptyList]

theorem spelled_nonEmptyList {α : Type} {αs : List Type} {name : String} {d : Decoder (List α)}
    {toJson : α → Value} {as : List α} {rest : Fields αs} {ms : List (String × Value)}
    {values : Values αs}
    (has : as.map toJson ≠ [] → d.Takes (Value.list (as.map toJson)).write as)
    (h : rest.Spelled ms values) :
    (Fields.cons name d (.anywhere []) rest).Spelled (nonEmptyList name (as.map toJson) ++ ms)
      (as, values) := by
  cases as with
  | nil => exact .absent rfl h
  | cons a as => exact .present (has (List.cons_ne_nil _ _)) h

theorem spelled_optionalText {αs : List Type} {name : String} {o : Option String} {rest : Fields αs}
    {ms : List (String × Value)} {values : Values αs} (h : rest.Spelled ms values) :
    (Fields.cons name (Json.optional Json.text) (.anywhere none) rest).Spelled
      (optionalText name o ++ ms) (o, values) :=
  .optional (fun s _ => ⟨Value.noConfusion, text_takes s⟩) h

/-! ## Hosts and clusters -/

/-- What a host is written as, its tags in any order. -/
def Host.WrittenAs (h : Host) (v : Value) : Prop :=
  ∃ tags : List (String × String), tags.Perm h.tags.toList ∧ v = h.toJsonListing tags

/-- What a document is written as, the tags of each of its hosts in an order of their own. -/
def ServiceDocument.WrittenAs (d : ServiceDocument) (v : Value) : Prop :=
  ∃ hosts : List Value, List.Forall₂ Host.WrittenAs d.hosts hosts ∧ v = d.toJsonListing hosts

theorem ServiceDocument.writtenAs_toJson (d : ServiceDocument) : d.WrittenAs d.toJson := by
  refine ⟨d.hosts.map Host.toJson, ?_, rfl⟩
  rw [List.forall₂_map_right_iff, List.forall₂_same]
  intro h _
  exact ⟨h.tags.toList, .refl _, rfl⟩

theorem Host.takes {h : Host} {v : Value} (hv : h.WrittenAs v) {left : Nat}
    (hleft : v.nesting ≤ left) : (Host.decoder left).Takes v.write h := by
  obtain ⟨tags, hperm, rfl⟩ := hv
  obtain ⟨n, rfl, hmembers⟩ := nesting_object_le_iff.1 hleft
  obtain ⟨m, rfl, -⟩ := nesting_object_le_iff.1
    (hmembers ("tags", .object (tags.map fun e => (e.1, .text e.2))) (by simp))
  have htags : (Json.entries (some Json.text)).Takes
      (Value.object (tags.map fun e => (e.1, .text e.2))).write h.tags := by
    rw [← Json.ofList_of_perm hperm]
    exact Json.entries_takes fun e _ => text_takes e.2
  exact record_takes (by simp [Fields.names])
    (.present (text_takes _) <| .present (text_takes _) <| .present (word16_takes _) <|
      .present (text_takes _) <| .present (text_takes _) <| .present (text_takes _) <|
      .present htags .nil) _ _

theorem ServiceDocument.takes {d : ServiceDocument} {v : Value} (hv : d.WrittenAs v) {left : Nat}
    (hleft : v.nesting ≤ left) : (ServiceDocument.decoder left).Takes v.write d := by
  obtain ⟨hosts, hall, rfl⟩ := hv
  obtain ⟨n, rfl, hmembers⟩ := nesting_object_le_iff.1 hleft
  obtain ⟨m, rfl, hitems⟩ := nesting_list_le_iff.1 (hmembers ("hosts", .list hosts) (by simp))
  have htakes : List.Forall₂ (fun h v => (Host.decoder m).Takes v.write h) d.hosts hosts := by
    rw [List.forall₂_iff_zip] at hall ⊢
    refine ⟨hall.1, ?_⟩
    intro h v hmem
    exact Host.takes (hall.2 hmem) (hitems v (List.of_mem_zip hmem).2)
  exact record_takes (by simp [Fields.names])
    (.present (text_takes _) <| .present (Json.list_takes_of_forall₂ htakes) <|
      .present (text_takes _) .nil) _ _

theorem Cluster.readsBack : ReadsBack Cluster.decoder Cluster.toJson := by
  intro left c hleft
  obtain ⟨n, rfl, -⟩ := nesting_object_le_iff.1 hleft
  exact record_takes (by simp [Fields.names])
    (.present (text_takes _) <| .present (text_takes _) <| .present (word64_takes _) <|
      .present (text_takes _) <| .present (text_takes _) .nil) _ _

theorem ClusterDocument.readsBack : ReadsBack ClusterDocument.decoder ClusterDocument.toJson := by
  intro left d hleft
  obtain ⟨n, rfl, hmembers⟩ := nesting_object_le_iff.1 hleft
  have hclusters := Cluster.readsBack.list n d.clusters (hmembers ("clusters", _) (by simp))
  exact record_takes (by simp [Fields.names]) (.present hclusters .nil) _ _

/-! ## Routes -/

theorem textList_readsBack : ReadsBack textList textsToJson :=
  readsBack_text.list

theorem Route.readsBack : ReadsBack Route.decoder Route.toJson := by
  intro left r hleft
  obtain ⟨n, rfl, -⟩ := nesting_object_le_iff.1 hleft
  exact record_takes (by simp [Fields.names])
    (.present (word64_takes _) <| .present (text_takes _) <| .present (text_takes _) <|
      .present (text_takes _) .nil) _ _

theorem VirtualHost.readsBack : ReadsBack VirtualHost.decoder VirtualHost.toJson := by
  intro left host hleft
  obtain ⟨n, rfl, hmembers⟩ := nesting_object_le_iff.1 hleft
  have hdomains := textList_readsBack n host.domains (hmembers ("domains", _) (by simp [textsToJson]))
  have hroutes := Route.readsBack.list n host.routes (hmembers ("routes", _) (by simp))
  exact record_takes (by simp [Fields.names])
    (.present (text_takes _) <| .present hdomains <| .present hroutes .nil) _ _

/-- The members in the order of the fields, each list or text that may be missing apart. -/
theorem TcpRoute.toJson_eq (r : TcpRoute) :
    r.toJson = .object (("cluster", .text r.cluster) ::
      (nonEmptyList "destination_ip_list" (r.destinationIps.map .text) ++
        (optionalText "destination_ports" r.destinationPorts ++
          (nonEmptyList "source_ip_list" (r.sourceIps.map .text) ++
            (nonEmptyList "source_ports" (r.sourcePorts.map .text) ++ []))))) := by
  simp [TcpRoute.toJson]

theorem TcpRoute.readsBack : ReadsBack TcpRoute.decoder TcpRoute.toJson := by
  intro left r hleft
  rw [toJson_eq] at hleft ⊢
  obtain ⟨n, rfl, hmembers⟩ := nesting_object_le_iff.1 hleft
  simp only [List.forall_mem_cons, List.forall_mem_append, forall_mem_nonEmptyList] at hmembers
  obtain ⟨-, hdestinationIps, -, hsourceIps, hsourcePorts, -⟩ := hmembers
  exact record_takes (by simp [Fields.names])
    (.present (text_takes _) <|
      spelled_nonEmptyList (fun hsome => textList_readsBack n _ (hdestinationIps hsome)) <|
      spelled_optionalText <|
      spelled_nonEmptyList (fun hsome => textList_readsBack n _ (hsourceIps hsome)) <|
      spelled_nonEmptyList (fun hsome => textList_readsBack n _ (hsourcePorts hsome)) .nil) _ _

theorem RouteConfig.toJson_eq (c : RouteConfig) :
    c.toJson = .object
      (nonEmptyList "virtual_hosts" (c.virtualHosts.map VirtualHost.toJson) ++
        (nonEmptyList "routes" (c.routes.map TcpRoute.toJson) ++ [])) := by
  simp [RouteConfig.toJson]

theorem RouteConfig.readsBack : ReadsBack RouteConfig.decoder RouteConfig.toJson := by
  intro left c hleft
  rw [toJson_eq] at hleft ⊢
  obtain ⟨n, rfl, hmembers⟩ := nesting_object_le_iff.1 hleft
  simp only [List.forall_mem_append, forall_mem_nonEmptyList] at hmembers
  obtain ⟨hvirtualHosts, hroutes, -⟩ := hmembers
  exact record_takes (by simp [Fields.names])
    (spelled_nonEmptyList (fun hsome => VirtualHost.readsBack.list n _ (hvirtualHosts hsome)) <|
      spelled_nonEmptyList (fun hsome => TcpRoute.readsBack.list n _ (hroutes hsome)) .nil) _ _

/-! ## Filters -/

theorem Tracing.readsBack : ReadsBack Tracing.decoder Tracing.toJson := by
  intro left t hleft
  obtain ⟨n, rfl, -⟩ := nesting_object_le_iff.1 hleft
  exact record_takes (by simp [Fields.names]) (.present (text_takes _) .nil) _ _

theorem Filter.listToJson_eq_map (filters : List Filter) :
    listToJson filters = filters.map toJson := by
  induction filters with
  | nil => rw [listToJson, List.map_nil]
  | cons f rest ih => rw [listToJson, List.map_cons, ih]

theorem FilterConfig.toJson_eq (codec statPrefix : Option String) (routes : Option RouteConfig)
    (filters : List Filter) (tracing : Option Tracing) :
    (FilterConfig.mk codec statPrefix routes filters tracing).toJson = .object
      (optionalText "codec_type" codec ++
        (optionalText "stat_prefix" statPrefix ++
          (routes.toList.map (fun r => ("route_config", r.toJson)) ++
            (nonEmptyList "filters" (filters.map Filter.toJson) ++
              (tracing.toList.map (fun t => ("tracing", t.toJson)) ++ []))))) := by
  simp [FilterConfig.toJson, Filter.listToJson_eq_map]

/-! What may be opened inside a filter is one container less than in front of it, and the same holds
of configurations and of lists of filters. -/

theorem Filter.readsBack_step {left : Nat}
    (hconfig : ∀ n < left, (FilterConfig.decoder n).ReadsBack n FilterConfig.toJson) :
    (Filter.decoder left).ReadsBack left Filter.toJson := by
  rintro ⟨name, config⟩ hleft
  rw [Filter.toJson] at hleft ⊢
  obtain ⟨n, rfl, hmembers⟩ := nesting_object_le_iff.1 hleft
  have htakes := hconfig n (Nat.lt_succ_self n) config (hmembers ("config", _) (by simp))
  rw [Filter.decoder]
  exact record_takes (by simp [Fields.names]) (.present (text_takes _) <| .present htakes .nil) _ _

theorem FilterConfig.readsBack_step {left : Nat}
    (hlist : ∀ n < left,
      (Filter.listDecoder n).ReadsBack n fun filters => .list (filters.map Filter.toJson)) :
    (FilterConfig.decoder left).ReadsBack left FilterConfig.toJson := by
  rintro ⟨codec, statPrefix, routes, filters, tracing⟩ hleft
  rw [toJson_eq] at hleft ⊢
  obtain ⟨n, rfl, hmembers⟩ := nesting_object_le_iff.1 hleft
  simp only [List.forall_mem_append, forall_mem_nonEmptyList, Fields.forall_mem_optional] at hmembers
  obtain ⟨-, -, hroutes, hfilters, htracing, -⟩ := hmembers
  rw [FilterConfig.decoder]
  exact record_takes (by simp [Fields.names])
    (spelled_optionalText <| spelled_optionalText <|
      .optional (fun r hr => ⟨Value.noConfusion, RouteConfig.readsBack n r (hroutes r hr)⟩) <|
      spelled_nonEmptyList (fun hsome => hlist n (Nat.lt_succ_self n) _ (hfilters hsome)) <|
      .optional (fun t ht => ⟨Value.noConfusion, Tracing.readsBack n t (htracing t ht)⟩) .nil) _ _

theorem Filter.list_readsBack_step {left : Nat}
    (hfilter : ∀ n < left, (Filter.decoder n).ReadsBack n Filter.toJson) :
    (Filter.listDecoder left).ReadsBack left fun filters => .list (filters.map Filter.toJson) := by
  intro filters hleft
  obtain ⟨n, rfl, hitems⟩ := nesting_list_le_iff.1 hleft
  rw [Filter.listDecoder]
  exact Json.list_takes fun f hf =>
    hfilter n (Nat.lt_succ_self n) f (hitems _ (List.mem_map_of_mem hf))

theorem Filter.list_readsBack :
    ReadsBack Filter.listDecoder fun filters => .list (filters.map Filter.toJson) := by
  intro left
  suffices hall : (Filter.decoder left).ReadsBack left Filter.toJson ∧
      (FilterConfig.decoder left).ReadsBack left FilterConfig.toJson ∧
      (Filter.listDecoder left).ReadsBack left fun filters => .list (filters.map Filter.toJson) from
    hall.2.2
  induction left using Nat.strongRecOn with
  | ind left ih =>
      exact ⟨readsBack_step fun n hn => (ih n hn).2.1,
        FilterConfig.readsBack_step fun n hn => (ih n hn).2.2,
        list_readsBack_step fun n hn => (ih n hn).1⟩

theorem Listener.readsBack : ReadsBack Listener.decoder Listener.toJson := by
  intro left l hleft
  rw [toJson, Filter.listToJson_eq_map] at hleft ⊢
  obtain ⟨n, rfl, hmembers⟩ := nesting_object_le_iff.1 hleft
  have hfilters := Filter.list_readsBack n l.filters (hmembers ("filters", _) (by simp))
  exact record_takes (by simp [Fields.names])
    (.present (text_takes _) <| .present (text_takes _) <| .present hfilters .nil) _ _

theorem ListenerDocument.readsBack : ReadsBack ListenerDocument.decoder ListenerDocument.toJson := by
  intro left d hleft
  obtain ⟨n, rfl, hmembers⟩ := nesting_object_le_iff.1 hleft
  have hlisteners := Listener.readsBack.list n d.listeners (hmembers ("listeners", _) (by simp))
  exact record_takes (by simp [Fields.names]) (.present hlisteners .nil) _ _

/-! ## Every message -/

theorem Host.nesting_le_two {h : Host} {v : Value} (hv : h.WrittenAs v) : v.nesting ≤ 2 := by
  obtain ⟨tags, -, rfl⟩ := hv
  refine nesting_object_le_iff.2 ⟨1, rfl, ?_⟩
  have htags : (Value.object (tags.map fun e => (e.1, .text e.2))).nesting ≤ 1 :=
    nesting_object_le_iff.2 ⟨0, rfl, List.forall_mem_map.2 fun _ _ => Nat.le_refl 0⟩
  simpa [Value.nesting] using htags

theorem Host.nesting_le_two_of_mem {hosts : List Host} {vs : List Value}
    (h : List.Forall₂ Host.WrittenAs hosts vs) : ∀ v ∈ vs, v.nesting ≤ 2 := by
  induction h with
  | nil => simp
  | cons hv _ ih => exact List.forall_mem_cons.2 ⟨Host.nesting_le_two hv, ih⟩

theorem ServiceDocument.nesting_le_four {d : ServiceDocument} {v : Value} (hv : d.WrittenAs v) :
    v.nesting ≤ 4 := by
  obtain ⟨hosts, hall, rfl⟩ := hv
  refine nesting_object_le_iff.2 ⟨3, rfl, ?_⟩
  have hhosts : (Value.list hosts).nesting ≤ 3 :=
    nesting_list_le_iff.2 ⟨2, rfl, Host.nesting_le_two_of_mem hall⟩
  simpa [Value.nesting] using hhosts

theorem ServiceDocument.decode_of_writtenAs {d : ServiceDocument} {v : Value} (hv : d.WrittenAs v) :
    decode v.write = .ok d := by
  have hnesting := ServiceDocument.nesting_le_four hv
  exact Json.decodeAll_of_takes (ServiceDocument.takes hv (hnesting.trans (by decide)))

theorem ServiceDocument.decode_toJson (d : ServiceDocument) : decode d.toJson.write = .ok d :=
  decode_of_writtenAs d.writtenAs_toJson

theorem ClusterDocument.nesting_toJson (d : ClusterDocument) : d.toJson.nesting ≤ 3 := by
  refine nesting_object_le_iff.2 ⟨2, rfl, ?_⟩
  have hcluster (c : Cluster) : c.toJson.nesting ≤ 1 :=
    nesting_object_le_iff.2 ⟨0, rfl, by simp [Value.nesting]⟩
  have hclusters : (Value.list (d.clusters.map Cluster.toJson)).nesting ≤ 2 :=
    nesting_list_le_iff.2 ⟨1, rfl, List.forall_mem_map.2 fun c _ => hcluster c⟩
  simpa [Value.nesting] using hclusters

/-- Every message is read back from its text, a service document with the tags of its hosts in whatever
order, and a listener document as long as it opens no more containers inside one another than are
decoded. -/
theorem messages_readBack :
    (∀ q : Request, Request.decode q.toJson.write = .ok q) ∧
      (∀ r : Reply, Reply.decode r.toJson.write = .ok r) ∧
      (∀ d : ServiceDocument, d.WrittenAs d.toJson ∧
        ∀ v, d.WrittenAs v → ServiceDocument.decode v.write = .ok d) ∧
      (∀ d : ClusterDocument, ClusterDocument.decode d.toJson.write = .ok d) ∧
      ∀ d : ListenerDocument, d.toJson.nesting ≤ Json.maxNesting →
        ListenerDocument.decode d.toJson.write = .ok d := by
  refine ⟨Request.decode_toJson, Reply.decode_toJson, ?_, ?_, ?_⟩
  · intro d
    exact ⟨d.writtenAs_toJson, fun _ hv => ServiceDocument.decode_of_writtenAs hv⟩
  · intro d
    have hnesting := d.nesting_toJson
    exact Json.decodeAll_of_takes (ClusterDocument.readsBack _ d (hnesting.trans (by decide)))
  · intro d hnesting
    exact Json.decodeAll_of_takes (ListenerDocument.readsBack _ d hnesting)

/-- Filters that stand inside one another, around one whose routes are all missing. -/
def nestedFilter : Nat → Filter
  | 0 => .mk "inner\u0000" (.mk none (some "\"é𝄞\"") (some ⟨[], []⟩) [] none)
  | n + 1 => .mk "outer" (.mk (some "auto") none none [nestedFilter n] none)

def deepDocument : ListenerDocument :=
  ⟨[⟨"listener", "tcp://0.0.0.0:80", [nestedFilter 40]⟩]⟩

theorem messages_readBack_deepDocument :
    deepDocument.toJson.nesting = Json.maxNesting ∧
      ListenerDocument.decode deepDocument.toJson.write = .ok deepDocument := by
  have hnesting : deepDocument.toJson.nesting = Json.maxNesting := by decide +kernel
  exact ⟨hnesting, messages_readBack.2.2.2.2 deepDocument hnesting.le⟩

end MeshRegistry.Discovery
