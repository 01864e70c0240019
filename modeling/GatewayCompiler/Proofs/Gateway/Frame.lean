import GatewayCompiler.Proofs.Gateway.Parts
import GatewayCompiler.Proofs.Routes.Lockstep
import GatewayCompiler.Proofs.Snapshot

/-!
# What a translation looks at

A translation of a Gateway looks at its listeners, at the routes that they serve and at what these
refer to.  The rest of a snapshot may be what it likes: in particular a route that no listener of
the Gateway serves, whatever its rules say, makes no difference to the graph, the fault or the
notices.
-/

namespace GatewayCompiler

section Congruence

variable {s t : Snapshot}

theorem Snapshot.ensureAuthorized_congr (h : s.referenceGrants = t.referenceGrants) :
    s.ensureAuthorized = t.ensureAuthorized := by
  funext referrer referrerKind targetKind target field
  rw [Snapshot.ensureAuthorized, Snapshot.ensureAuthorized, grantsIn, grantsIn, h]

/-- A route is planned alike where its backends are resolved alike. -/
theorem HttpRoute.plans_congr {route : HttpRoute}
    (h : ∀ (backend : BackendRef) (field : String),
      backend.resolve s route.ref field = backend.resolve t route.ref field)
    (rules : ClusterRules) : route.plans s rules = route.plans t rules := by
  have hbackends : BuildingRelation.same.AgreeOnBackends s t rules rules route.ref := by
    intro backend field
    change backend.cluster s rules route.ref field = backend.cluster t rules route.ref field
    rw [BackendRef.cluster, BackendRef.cluster, h]
  exact BuildingRelation.agree_plans hbackends

namespace Listener

variable {listener : Listener} {gateway : Gateway}

/-- A listener is planned alike where its certificates are resolved alike. -/
theorem plan_congr
    (h : ∀ (ref : CertificateRef) (field : String),
      ref.resolve s gateway.ref field = ref.resolve t gateway.ref field)
    (settings : Settings) (index : Nat) :
    listener.plan s settings gateway index = listener.plan t settings gateway index := by
  have htls : ∀ field,
      listener.tlsPlan s gateway.ref field = listener.tlsPlan t gateway.ref field := by
    intro field
    simp only [tlsPlan, ListenerTls.plan, h]
  simp only [Listener.plan, htls]

theorem routeConfiguration_congr {key : ObjectKey} {rules : ClusterRules}
    (hserved : listener.servedRoutes s key = listener.servedRoutes t key)
    (hplans : ∀ route ∈ listener.servedRoutes s key, route.plans s rules = route.plans t rules) :
    listener.routeConfiguration s rules key = listener.routeConfiguration t rules key :=
  agree_routeConfiguration BuildingRelation.same hserved hplans

end Listener

/-- The resources of a Gateway are those that its listeners and their routes are planned to be. -/
theorem Translator.resources_congr {settings : Settings} {policy : EndpointPolicy}
    {gateway : Gateway}
    (hplan : ∀ (listener : Listener) (index : Nat),
      listener.plan s settings gateway index = listener.plan t settings gateway index)
    (hconfiguration : ∀ listener ∈ gateway.listeners, ∀ rules : ClusterRules,
      listener.routeConfiguration s rules gateway.key =
        listener.routeConfiguration t rules gateway.key) :
    resources ⟨s, settings, policy⟩ gateway = resources ⟨t, settings, policy⟩ gateway := by
  have hadd : ∀ entry ∈ gateway.listeners.zipIdx, ∀ state : Graph × BackendClusters,
      addListener ⟨s, settings, policy⟩ gateway state entry =
        addListener ⟨t, settings, policy⟩ gateway state entry := by
    intro entry hentry state
    have hlistener : entry.1 ∈ gateway.listeners := List.fst_mem_of_mem_zipIdx hentry
    simp only [addListener, clusterRules, hplan, hconfiguration entry.1 hlistener]
  rw [resources, resources, foldlM_congr hadd]

end Congruence

/-- Snapshots that differ in their Gateways and routes at most, so that references resolve alike. -/
structure Snapshot.ResolveAlike (s t : Snapshot) : Prop where
  namespaces : s.namespaces = t.namespaces
  services : s.services = t.services
  secrets : s.secrets = t.secrets
  referenceGrants : s.referenceGrants = t.referenceGrants

namespace Snapshot.ResolveAlike

variable {s t : Snapshot}

theorem backend_resolve_eq (h : s.ResolveAlike t) (backend : BackendRef) (route : ObjectRef)
    (field : String) : backend.resolve s route field = backend.resolve t route field := by
  simp only [BackendRef.resolve, service?, ensureAuthorized_congr h.referenceGrants, h.services]

theorem certificate_resolve_eq (h : s.ResolveAlike t) (ref : CertificateRef) (gateway : ObjectRef)
    (field : String) : ref.resolve s gateway field = ref.resolve t gateway field := by
  simp only [CertificateRef.resolve, secret?, ensureAuthorized_congr h.referenceGrants, h.secrets]

/-- Where references resolve alike, a Gateway whose listeners serve the same routes has the same
resources. -/
theorem resources_eq (h : s.ResolveAlike t) {gateway : Gateway}
    (hserved : ∀ listener ∈ gateway.listeners,
      listener.servedRoutes s gateway.key = listener.servedRoutes t gateway.key)
    (settings : Settings) (policy : EndpointPolicy) :
    Translator.resources ⟨s, settings, policy⟩ gateway =
      Translator.resources ⟨t, settings, policy⟩ gateway := by
  apply Translator.resources_congr
  · intro listener index
    exact Listener.plan_congr (fun ref field => h.certificate_resolve_eq ref gateway.ref field) _ _
  · intro listener hlistener rules
    apply Listener.routeConfiguration_congr (hserved listener hlistener)
    intro route _
    apply HttpRoute.plans_congr
    intro backend field
    exact h.backend_resolve_eq backend route.ref field

end Snapshot.ResolveAlike

namespace Snapshot

variable {snapshot : Snapshot}

theorem resolveAlike_insert_httpRoute (route : HttpRoute) :
    (snapshot.insert (.httpRoute route)).ResolveAlike snapshot :=
  ⟨rfl, rfl, rfl, rfl⟩

/-- A listener serves the same routes after a new one that it does not serve. -/
theorem servedRoutes_insert_httpRoute {route : HttpRoute} {gateway : ObjectKey}
    {listener : Listener} (hnew : snapshot.httpRoutes.get? route.key = none)
    (hnot : route.isServed snapshot gateway listener = false) :
    listener.servedRoutes (snapshot.insert (.httpRoute route)) gateway =
      listener.servedRoutes snapshot gateway := by
  have hserved : ∀ other : HttpRoute,
      other.isServed (snapshot.insert (.httpRoute route)) gateway listener =
        other.isServed snapshot gateway listener :=
    fun other => HttpRoute.isServed_congr rfl other gateway listener
  simp only [Listener.servedRoutes, hserved]
  exact Catalog.filter_values_put hnew hnot

end Snapshot

namespace Sample

/-- A route of another team that is broken throughout and meant for another Gateway, or for hosts
that the listener with TLS does not accept. -/
def outsider : HttpRoute :=
  ⟨metadata "shop" "extra",
    [⟨none, none, some "infra", "internal", none, none⟩,
      ⟨none, none, some "infra", "edge", some "https", none⟩],
    ["shop.example.org"],
    [⟨[], [⟨"Mirror", none, none, none, none⟩], [backend (some "vault") "missing" none]⟩]⟩

end Sample

namespace Translator

variable {snapshot : Snapshot} {key : ObjectKey}

/-- A new route that attaches to no listener of a Gateway, or shares no host with those that it does
attach to, leaves the translation of the Gateway as it was, notices included. -/
theorem translate_insert_of_foreign {route : HttpRoute}
    (hnew : snapshot.httpRoutes.get? route.key = none)
    (hforeign : ∀ gateway, snapshot.gateway? key = some gateway → ∀ listener ∈ gateway.listeners,
      route.attaches snapshot key listener = false ∨
        Hostname.intersection? listener.hostname route.hostnames = none)
    (settings : Settings) (policy : EndpointPolicy) :
    Translator.translate ⟨snapshot.insert (.httpRoute route), settings, policy⟩ key =
      Translator.translate ⟨snapshot, settings, policy⟩ key := by
  have hsame : (snapshot.insert (.httpRoute route)).gateway? key = snapshot.gateway? key := rfl
  simp only [translate, hsame]
  cases hgateway : snapshot.gateway? key with
  | none => rfl
  | some gateway =>
      have hgatewayKey : gateway.key = key := Catalog.key_eq_of_get? hgateway
      have hserved : ∀ listener ∈ gateway.listeners,
          listener.servedRoutes (snapshot.insert (.httpRoute route)) gateway.key =
            listener.servedRoutes snapshot gateway.key := by
        intro listener hlistener
        apply Snapshot.servedRoutes_insert_httpRoute hnew
        rw [hgatewayKey, HttpRoute.isServed]
        obtain hattaches | hhosts := hforeign gateway hgateway listener hlistener
        · rw [hattaches, Bool.false_and]
        · rw [hhosts, Option.isSome_none, Bool.and_false]
      simp only [(Snapshot.resolveAlike_insert_httpRoute route).resources_eq hserved]

theorem translate_insert_of_outsider :
    ∃ graph, (Sample.translator.translate Sample.gateway.key).outcome = .ok graph ∧
      Sample.outsider.attaches Sample.snapshot Sample.gateway.key Sample.https = true ∧
      (Translator.translate ⟨Sample.snapshot.insert (.httpRoute Sample.outsider), .default,
        .clusterIp⟩ Sample.gateway.key).outcome = .ok graph := by
  have hnew : Sample.snapshot.httpRoutes.get? Sample.outsider.key = none := by decide +kernel
  have hgateway : Sample.snapshot.gateway? Sample.gateway.key = some Sample.gateway := by
    decide +kernel
  have hforeign : ∀ listener ∈ Sample.gateway.listeners,
      Sample.outsider.attaches Sample.snapshot Sample.gateway.key listener = false ∨
        Hostname.intersection? listener.hostname Sample.outsider.hostnames = none := by
    decide +kernel
  have hrun : (Sample.translator.translate Sample.gateway.key).outcome.map Graph.size = .ok 10 := by
    decide +kernel
  obtain ⟨graph, hgraph, _⟩ := map_eq_ok.1 hrun
  have hsame := translate_insert_of_foreign hnew
    (fun gateway hfound listener hlistener => by
      rw [hgateway, Option.some.injEq] at hfound
      subst hfound
      exact hforeign listener hlistener) .default .clusterIp
  exact ⟨graph, hgraph, by decide +kernel, by rw [hsame]; exact hgraph⟩

end Translator

end GatewayCompiler
