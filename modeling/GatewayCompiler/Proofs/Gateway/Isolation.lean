import GatewayCompiler.Proofs.Gateway.Frame
import GatewayCompiler.Proofs.Gateway.References

/-!
# Isolation of namespaces

A namespace that grants nothing, is not the namespace of the Gateway and has no route attached to it
is closed to the translation: what Services and Secrets are in it, and whether there are any, makes
no difference to the graph, the fault or the notices.
-/

namespace GatewayCompiler

namespace Snapshot

/-- Snapshots that differ in the Services and Secrets of one namespace at most. -/
structure AgreeOutside (ns : String) (s t : Snapshot) : Prop where
  namespaces : s.namespaces = t.namespaces
  gateways : s.gateways = t.gateways
  httpRoutes : s.httpRoutes = t.httpRoutes
  referenceGrants : s.referenceGrants = t.referenceGrants
  services : ∀ key : ObjectKey, key.ns ≠ ns → s.service? key = t.service? key
  secrets : ∀ key : ObjectKey, key.ns ≠ ns → s.secret? key = t.secret? key

/-- A namespace in which no grant lives. -/
def GrantsNothing (snapshot : Snapshot) (ns : String) : Prop :=
  ∀ grant ∈ snapshot.referenceGrants.values, grant.metadata.namespaceName ≠ ns

variable {ns : String} {s t : Snapshot}

/-- Putting a Service into a snapshot makes a difference in its namespace only. -/
theorem agreeOutside_insert_service (snapshot : Snapshot) (service : Service) :
    AgreeOutside service.key.ns snapshot (snapshot.insert (.service service)) where
  namespaces := rfl
  gateways := rfl
  httpRoutes := rfl
  referenceGrants := rfl
  services := by
    intro key hkey
    have hother : service.key ≠ key := fun hsame => hkey (congrArg ObjectKey.ns hsame.symm)
    exact (Table.get?_insert_of_ne hother).symm
  secrets _ _ := rfl

/-- A reference into a namespace that grants nothing is refused, so what would be done after it does
not matter. -/
theorem ensureAuthorized_bind_eq {α : Type} {referrer : ObjectRef}
    {referrerKind targetKind : GroupKind} {target : ObjectKey} {field : String}
    (hgrants : s.GrantsNothing ns) (htarget : target.ns = ns) (hreferrer : referrer.ns ≠ ns)
    (f g : Unit → Except Fault α) :
    s.ensureAuthorized referrer referrerKind targetKind target field >>= f =
      s.ensureAuthorized referrer referrerKind targetKind target field >>= g := by
  cases hauthorized : s.ensureAuthorized referrer referrerKind targetKind target field with
  | error fault => rfl
  | ok _ =>
      -- The grant that lets the reference through would have to live in the namespace.
      have hleaves : referrer.ns ≠ target.ns := by
        rw [htarget]
        exact hreferrer
      obtain ⟨grant, hgrant, hlives, _⟩ := ensureAuthorized_eq_ok_iff.1 hauthorized hleaves
      exact absurd (hlives.trans htarget) (hgrants grant hgrant)

end Snapshot

section Agreement

open Snapshot (AgreeOutside GrantsNothing)

variable {ns : String} {s t : Snapshot}

theorem CertificateRef.resolve_eq (h : AgreeOutside ns s t) (hgrants : s.GrantsNothing ns)
    {gateway : ObjectRef} (hgateway : gateway.ns ≠ ns) (ref : CertificateRef) (field : String) :
    ref.resolve s gateway field = ref.resolve t gateway field := by
  rw [resolve, resolve, ← Snapshot.ensureAuthorized_congr h.referenceGrants]
  by_cases htarget : ref.ns.getD gateway.ns = ns
  · split
    · rfl
    · exact Snapshot.ensureAuthorized_bind_eq hgrants htarget hgateway _ _
  · have hsecret := h.secrets ⟨ref.ns.getD gateway.ns, ref.name⟩ htarget
    simp only [hsecret]

theorem BackendRef.resolve_eq (h : AgreeOutside ns s t) (hgrants : s.GrantsNothing ns)
    {route : ObjectRef} (hroute : route.ns ≠ ns) (backend : BackendRef) (field : String) :
    backend.resolve s route field = backend.resolve t route field := by
  rw [resolve, resolve, ← Snapshot.ensureAuthorized_congr h.referenceGrants]
  by_cases htarget : backend.ns.getD route.ns = ns
  · split
    · rfl
    · split
      · rfl
      · exact Snapshot.ensureAuthorized_bind_eq hgrants htarget hroute _ _
  · have hservice := h.services ⟨backend.ns.getD route.ns, backend.name⟩ htarget
    simp only [hservice]

namespace Listener

theorem plan_eq (h : AgreeOutside ns s t) (hgrants : s.GrantsNothing ns) {gateway : Gateway}
    (hgateway : gateway.key.ns ≠ ns) (listener : Listener) (settings : Settings) (index : Nat) :
    listener.plan s settings gateway index = listener.plan t settings gateway index := by
  have hresolve : ∀ (ref : CertificateRef) (field : String),
      ref.resolve s gateway.ref field = ref.resolve t gateway.ref field :=
    CertificateRef.resolve_eq h hgrants hgateway
  exact plan_congr hresolve settings index

/-- The routes of a listener are planned alike when none of them is of the namespace. -/
theorem routeConfiguration_eq (h : AgreeOutside ns s t) (hgrants : s.GrantsNothing ns)
    {listener : Listener} {gateway : ObjectKey}
    (hroutes : ∀ route ∈ s.routes, route.key.ns = ns → route.attaches s gateway listener = false)
    (rules : ClusterRules) :
    listener.routeConfiguration s rules gateway = listener.routeConfiguration t rules gateway := by
  apply routeConfiguration_congr (servedRoutes_congr h.namespaces h.httpRoutes listener gateway)
  intro route hroute
  obtain ⟨hmem, hserved⟩ := List.mem_filter.1 hroute
  rw [HttpRoute.isServed, Bool.and_eq_true] at hserved
  have hother : route.key.ns ≠ ns := by
    intro hns
    rw [hroutes route hmem hns] at hserved
    cases hserved.1
  exact HttpRoute.plans_congr (BackendRef.resolve_eq h hgrants hother) rules

end Listener

namespace Translator

/-- What is in a namespace that grants nothing makes no difference to a Gateway of another namespace
to which no route of this namespace attaches. -/
theorem translate_eq_of_agreeOutside {key : ObjectKey} (h : AgreeOutside ns s t)
    (hkey : key.ns ≠ ns)
    (hgrants : ∀ grant ∈ s.referenceGrants.values, grant.metadata.namespaceName ≠ ns)
    (hroutes : ∀ gateway, s.gateway? key = some gateway → ∀ listener ∈ gateway.listeners,
      ∀ route ∈ s.routes, route.key.ns = ns → route.attaches s key listener = false)
    (settings : Settings) (policy : EndpointPolicy) :
    Translator.translate ⟨s, settings, policy⟩ key =
      Translator.translate ⟨t, settings, policy⟩ key := by
  have hsame : s.gateway? key = t.gateway? key := by
    rw [Snapshot.gateway?, Snapshot.gateway?, h.gateways]
  simp only [translate, ← hsame]
  cases hgateway : s.gateway? key with
  | none => rfl
  | some gateway =>
      have hgatewayKey : gateway.key = key := Catalog.key_eq_of_get? hgateway
      have hadd : ∀ entry ∈ gateway.listeners.zipIdx, ∀ state : Graph × BackendClusters,
          addListener ⟨s, settings, policy⟩ gateway state entry =
            addListener ⟨t, settings, policy⟩ gateway state entry := by
        intro entry hentry state
        have hlistener : entry.1 ∈ gateway.listeners := List.fst_mem_of_mem_zipIdx hentry
        have hplan := Listener.plan_eq h hgrants (hgatewayKey ▸ hkey) entry.1 settings entry.2
        have hconfiguration := Listener.routeConfiguration_eq h hgrants
          (hroutes gateway hgateway entry.1 hlistener) ⟨policy, settings.connectTimeoutSeconds⟩
        simp only [addListener, clusterRules, hplan, hgatewayKey, hconfiguration]
      have hresources : resources ⟨s, settings, policy⟩ gateway =
          resources ⟨t, settings, policy⟩ gateway := by
        rw [resources, resources, foldlM_congr hadd]
      simp only [hresources]

end Translator

end Agreement

namespace Sample

/-- A route that refers to a Service of a namespace without grants. -/
def probe : HttpRoute :=
  ⟨metadata "shop" "probe", [edge], [], [⟨[], [], [backend (some "vault") "safe" none]⟩]⟩

def probed : Snapshot :=
  snapshot.insert (.httpRoute probe)

def safe : Service :=
  service "vault" "safe" "10.0.0.9"

end Sample

namespace Translator

/-- Whether the Service of the ungranted namespace is there or not, a reference to it is refused. -/
theorem translate_eq_of_sample :
    (Translator.translate ⟨Sample.probed, .default, .clusterIp⟩ Sample.gateway.key).outcome =
      .error (.unauthorized ⟨"HTTPRoute", "shop", "probe"⟩ ⟨"Service", "vault", "safe"⟩
        "spec.rules[0].backendRefs[0]") ∧
    Translator.translate ⟨Sample.probed, .default, .clusterIp⟩ Sample.gateway.key =
      Translator.translate ⟨Sample.probed.insert (.service Sample.safe), .default, .clusterIp⟩
        Sample.gateway.key := by
  have hgrants : ∀ grant ∈ Sample.probed.referenceGrants.values,
      grant.metadata.namespaceName ≠ Sample.safe.key.ns := by
    decide +kernel
  have hnone : ∀ route ∈ Sample.probed.routes, route.key.ns ≠ Sample.safe.key.ns := by
    decide +kernel
  have hrefused : (Translator.translate ⟨Sample.probed, .default, .clusterIp⟩
        Sample.gateway.key).outcome.map Graph.size =
      .error (.unauthorized ⟨"HTTPRoute", "shop", "probe"⟩ ⟨"Service", "vault", "safe"⟩
        "spec.rules[0].backendRefs[0]") := by
    decide +kernel
  constructor
  · exact map_eq_error.1 hrefused
  · exact translate_eq_of_agreeOutside
      (Snapshot.agreeOutside_insert_service Sample.probed Sample.safe) (by decide +kernel) hgrants
      (fun _ _ _ _ route hroute hns => absurd hns (hnone route hroute)) _ _

end Translator

end GatewayCompiler
