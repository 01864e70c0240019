import GatewayCompiler.Proofs.Faults.Gateway
import GatewayCompiler.Proofs.Gateway.Inventory
import GatewayCompiler.Proofs.Gateway.Isolation

/-!
# Attribution of faults

A fault of a translation names an object that has a part in it: the Gateway that was asked for, a
route that one of its listeners serves, a Secret that its listeners name, or a Service that such a
route names.  What it says of absent objects and refused references is so.
-/

namespace GatewayCompiler

/-- Whether a route attaches to a listener of the Gateway and shares a host with it. -/
def HttpRoute.Reaches (route : HttpRoute) (snapshot : Snapshot) (gateway : Gateway) : Prop :=
  route ∈ snapshot.routes ∧ ∃ listener ∈ gateway.listeners,
    route.attaches snapshot gateway.key listener = true ∧
    (Hostname.intersection? listener.hostname route.hostnames).isSome = true

namespace Snapshot

/-- The objects that have a part in the translation of the Gateway of a key. -/
inductive Involves (snapshot : Snapshot) (key : ObjectKey) : ObjectRef → Prop where
  | gateway : Involves snapshot key ⟨"Gateway", key.ns, key.name⟩
  | route {gateway : Gateway} {route : HttpRoute} (hgateway : snapshot.gateway? key = some gateway)
      (hroute : route.Reaches snapshot gateway) :
      Involves snapshot key ⟨"HTTPRoute", route.key.ns, route.key.name⟩
  | secret {gateway : Gateway} {listener : Listener} {tls : ListenerTls} {ref : CertificateRef}
      (hgateway : snapshot.gateway? key = some gateway) (hlistener : listener ∈ gateway.listeners)
      (htls : listener.tls = some tls) (href : ref ∈ tls.certificateRefs) :
      Involves snapshot key ⟨"Secret", ref.ns.getD key.ns, ref.name⟩
  | service {gateway : Gateway} {route : HttpRoute} {rule : RouteRule} {backend : BackendRef}
      (hgateway : snapshot.gateway? key = some gateway) (hroute : route.Reaches snapshot gateway)
      (hrule : rule ∈ route.rules) (hbackend : backend ∈ rule.backendRefs) :
      Involves snapshot key ⟨"Service", backend.ns.getD route.key.ns, backend.name⟩

/-- The objects that are not in a snapshot, of the kinds that a translation looks up. -/
inductive Lacks (snapshot : Snapshot) : ObjectRef → Prop where
  | gateway {key : ObjectKey} (hnone : snapshot.gateway? key = none) :
      Lacks snapshot ⟨"Gateway", key.ns, key.name⟩
  | secret {key : ObjectKey} (hnone : snapshot.secret? key = none) :
      Lacks snapshot ⟨"Secret", key.ns, key.name⟩
  | service {key : ObjectKey} (hnone : snapshot.service? key = none) :
      Lacks snapshot ⟨"Service", key.ns, key.name⟩

end Snapshot

/-- The reference of which a refusal tells, from a Gateway or a route to a Secret or a Service. -/
def ObjectRef.referenceTo (source target : ObjectRef) : CrossReference :=
  ⟨⟨gatewayGroup, source.kind⟩, source.ns, ⟨coreGroup, target.kind⟩, target.ns, target.name⟩

/-- The categories of what is wrong with the input. -/
def Fault.inputCategories : List String :=
  ["not-found", "unauthorized-reference", "unsupported-construct", "invalid-input"]

/-- What it is that a fault blames an object that has a part in the translation of the Gateway of a
key, and what it says of it is so. -/
structure Fault.IsAttributed (fault : Fault) (snapshot : Snapshot) (key : ObjectKey) : Prop where
  category : fault.category ∈ Fault.inputCategories
  object : ∃ object, fault.object? = some object ∧ snapshot.Involves key object
  absent : ∀ object referrer, fault = .notFound object referrer → snapshot.Lacks object
  refused : ∀ source target field, fault = .unauthorized source target field →
    source.ns ≠ target.ns ∧ ¬ snapshot.Grants (source.referenceTo target)

namespace Fault

variable {snapshot : Snapshot} {key : ObjectKey} {object : ObjectRef}

theorem IsAbout.isAttributed {fault : Fault} (h : fault.IsAbout object)
    (hobject : snapshot.Involves key object) : fault.IsAttributed snapshot key := by
  cases h with
  | unsupported field detail =>
      exact ⟨by simp [category, inputCategories], ⟨object, rfl, hobject⟩, nofun, nofun⟩
  | invalid field detail =>
      exact ⟨by simp [category, inputCategories], ⟨object, rfl, hobject⟩, nofun, nofun⟩

theorem isAttributed_notFound {referrer : Option String} (hobject : snapshot.Involves key object)
    (hlacks : snapshot.Lacks object) : (notFound object referrer).IsAttributed snapshot key := by
  refine ⟨by simp [category, inputCategories], ⟨object, rfl, hobject⟩, ?_, nofun⟩
  rintro _ _ ⟨⟩
  exact hlacks

theorem isAttributed_unauthorized {source target : ObjectRef} {field : String}
    (hsource : snapshot.Involves key source) (hleaves : source.ns ≠ target.ns)
    (hnone : ¬ snapshot.Grants (source.referenceTo target)) :
    (unauthorized source target field).IsAttributed snapshot key := by
  refine ⟨by simp [category, inputCategories], ⟨source, rfl, hsource⟩, nofun, ?_⟩
  rintro _ _ _ ⟨⟩
  exact ⟨hleaves, hnone⟩

end Fault

section Reports

variable {snapshot : Snapshot} {gateway : Gateway} {route : HttpRoute} {fault : Fault}

theorem HttpRoute.involves_service (hgateway : snapshot.gateway? gateway.key = some gateway)
    (hroute : route.Reaches snapshot gateway) {backend : BackendRef}
    (h : backend ∈ route.followed) :
    snapshot.Involves gateway.key
      ⟨"Service", backend.ns.getD route.namespaceName, backend.name⟩ := by
  obtain ⟨rule, hrule, hfollowed⟩ := List.mem_flatMap.1 h
  exact .service hgateway hroute hrule (RouteRule.mem_followed_iff.1 hfollowed).2

theorem Gateway.involves_secret (hgateway : snapshot.gateway? gateway.key = some gateway)
    {ref : CertificateRef} (h : ref ∈ gateway.certificateRefs) :
    snapshot.Involves gateway.key ⟨"Secret", ref.ns.getD gateway.key.ns, ref.name⟩ := by
  obtain ⟨listener, hlistener, hmem⟩ := List.mem_flatMap.1 h
  rw [Listener.certificateRefs] at hmem
  cases htls : listener.tls with
  | none => simp [htls] at hmem
  | some tls =>
      rw [htls] at hmem
      exact .secret hgateway hlistener htls hmem

/-- A fault of a route is attributed, or comes from a backend that leads to a port of number
zero. -/
theorem HttpRoute.Reports.isAttributed_or_port
    (hgateway : snapshot.gateway? gateway.key = some gateway)
    (hroute : route.Reaches snapshot gateway) (h : route.Reports snapshot fault) :
    fault.IsAttributed snapshot gateway.key ∨
      ∃ backend ∈ route.followed, ∃ target ∈ backend.target? snapshot route.namespaceName,
        target.port.port = 0 ∧ fault = AssignmentPlan.portFault target.clusterName := by
  have hinvolved : snapshot.Involves gateway.key route.ref := .route hgateway hroute
  cases h with
  | own habout => exact .inl (habout.isAttributed hinvolved)
  | @service backend target _ hbackend htarget habout =>
      have hkey := BackendRef.key_of_target? htarget
      have hobject : target.service.ref =
          ⟨"Service", backend.ns.getD route.namespaceName, backend.name⟩ :=
        congrArg (fun key : ObjectKey => (⟨"Service", key.ns, key.name⟩ : ObjectRef)) hkey
      rw [hobject] at habout
      exact .inl (habout.isAttributed (involves_service hgateway hroute hbackend))
  | @absent backend hbackend hnone referrer =>
      have hservice := involves_service hgateway hroute hbackend
      exact .inl (Fault.isAttributed_notFound hservice (.service hnone))
  | refused hbackend hleaves hnone field =>
      exact .inl (Fault.isAttributed_unauthorized hinvolved hleaves hnone)
  | @port backend target hbackend htarget hzero =>
      exact .inr ⟨backend, hbackend, target, htarget, hzero, rfl⟩

theorem Gateway.Reports.isAttributed_or_port
    (hgateway : snapshot.gateway? gateway.key = some gateway)
    (h : gateway.Reports snapshot fault) :
    fault.IsAttributed snapshot gateway.key ∨
      ∃ entry ∈ gateway.followed snapshot, ∃ target ∈ entry.target? snapshot,
        target.port.port = 0 ∧ fault = AssignmentPlan.portFault target.clusterName := by
  cases h with
  | own habout => exact .inl (habout.isAttributed .gateway)
  | @secret ref secret _ href hfound habout =>
      have hkey : secret.key = ref.secretKey gateway.key.ns := Catalog.key_eq_of_get? hfound
      have hobject : secret.ref = ⟨"Secret", ref.ns.getD gateway.key.ns, ref.name⟩ :=
        congrArg (fun key : ObjectKey => (⟨"Secret", key.ns, key.name⟩ : ObjectRef)) hkey
      rw [hobject] at habout
      exact .inl (habout.isAttributed (involves_secret hgateway href))
  | @absent ref href hnone referrer =>
      have hsecret := involves_secret hgateway href
      exact .inl (Fault.isAttributed_notFound hsecret (.secret hnone))
  | refused href hleaves hnone field =>
      exact .inl (Fault.isAttributed_unauthorized .gateway hleaves hnone)
  | @route listener route _ hlistener hroute hreports =>
      obtain ⟨hmem, hserved⟩ := List.mem_filter.1 hroute
      rw [HttpRoute.isServed, Bool.and_eq_true] at hserved
      have hreaches : route.Reaches snapshot gateway := ⟨hmem, listener, hlistener, hserved⟩
      refine (hreports.isAttributed_or_port hgateway hreaches).imp_right ?_
      rintro ⟨backend, hbackend, hzero⟩
      refine ⟨⟨route, backend⟩, List.mem_flatMap.2 ⟨listener, hlistener, ?_⟩, hzero⟩
      exact List.mem_flatMap.2 ⟨route, hroute, List.mem_map_of_mem hbackend⟩

end Reports

namespace Translator

variable {translator : Translator} {key : ObjectKey} {fault : Fault}

/-- With valid settings, a fault of a translation is attributed, or comes from a backend that leads
to a port of number zero. -/
theorem isAttributed_or_port (hvalid : translator.settings.validate = .ok ())
    (h : (translator.translate key).outcome = .error fault) :
    fault.IsAttributed translator.snapshot key ∨
      ∃ gateway, translator.snapshot.gateway? key = some gateway ∧
        ∃ entry ∈ gateway.followed translator.snapshot,
          ∃ target ∈ entry.target? translator.snapshot,
            target.port.port = 0 ∧ fault = AssignmentPlan.portFault target.clusterName := by
  cases hgateway : translator.snapshot.gateway? key with
  | none =>
      rw [outcome_translate_of_none hvalid hgateway, Except.error.injEq] at h
      subst h
      exact .inl (Fault.isAttributed_notFound .gateway (.gateway hgateway))
  | some gateway =>
      have hkey : gateway.key = key := Catalog.key_eq_of_get? hgateway
      subst hkey
      have hreports := failsOnly_translate hvalid hgateway fault h
      exact (hreports.isAttributed_or_port hgateway).imp_right fun hport => ⟨gateway, rfl, hport⟩

/-- With valid settings, every fault but one of the output itself is attributed. -/
theorem isAttributed_of_translate (hvalid : translator.settings.validate = .ok ())
    (h : (translator.translate key).outcome = .error fault)
    (hcategory : fault.category ≠ "inconsistent-output") :
    fault.IsAttributed translator.snapshot key := by
  obtain hattributed | ⟨_, _, _, _, _, _, _, rfl⟩ := isAttributed_or_port hvalid h
  · exact hattributed
  · exact absurd rfl hcategory

theorem isAttributed_of_sample :
    (Translator.translate ⟨Sample.probed, .default, .clusterIp⟩ Sample.gateway.key).outcome =
      .error (.unauthorized ⟨"HTTPRoute", "shop", "probe"⟩ ⟨"Service", "vault", "safe"⟩
        "spec.rules[0].backendRefs[0]") ∧
    (Fault.unauthorized ⟨"HTTPRoute", "shop", "probe"⟩ ⟨"Service", "vault", "safe"⟩
      "spec.rules[0].backendRefs[0]").IsAttributed Sample.probed Sample.gateway.key := by
  have hvalid : Settings.default.validate = .ok () := by
    decide +kernel
  have hrefused : (Translator.translate ⟨Sample.probed, .default, .clusterIp⟩
        Sample.gateway.key).outcome.map Graph.size =
      .error (.unauthorized ⟨"HTTPRoute", "shop", "probe"⟩ ⟨"Service", "vault", "safe"⟩
        "spec.rules[0].backendRefs[0]") := by
    decide +kernel
  have houtcome := map_eq_error.1 hrefused
  exact ⟨houtcome, isAttributed_of_translate hvalid houtcome (by decide)⟩

end Translator

end GatewayCompiler
