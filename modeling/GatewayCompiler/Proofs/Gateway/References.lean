import GatewayCompiler.Proofs.Gateway.Closure
import GatewayCompiler.Proofs.Routes.Filters

/-!
# References that a translation follows

A translation follows the certificate references of HTTPS listeners and the backends of the routes
that listeners serve.  It does not get past a reference into another namespace that no grant of that
namespace permits.
-/

namespace GatewayCompiler

/-- A grant that lives where the reference leads lists the referrer, and lists the target by its
name or all targets of its kind. -/
def Snapshot.Grants (snapshot : Snapshot) (reference : CrossReference) : Prop :=
  ∃ grant ∈ snapshot.referenceGrants.values,
    grant.metadata.namespaceName = reference.targetNamespace ∧
    ⟨reference.source.group, reference.source.kind, reference.sourceNamespace⟩ ∈ grant.sources ∧
    ∃ target ∈ grant.targets,
      target.group = reference.target.group ∧ target.kind = reference.target.kind ∧
      (target.name = none ∨ target.name = some reference.targetName)

theorem GrantSource.covers_iff {source : GrantSource} {reference : CrossReference} :
    source.covers reference = true ↔
      source = ⟨reference.source.group, reference.source.kind, reference.sourceNamespace⟩ := by
  obtain ⟨group, kind, ns⟩ := source
  simp [covers, and_assoc]

theorem GrantTarget.covers_iff {target : GrantTarget} {reference : CrossReference} :
    target.covers reference = true ↔
      target.group = reference.target.group ∧ target.kind = reference.target.kind ∧
      (target.name = none ∨ target.name = some reference.targetName) := by
  cases hname : target.name <;> simp [covers, hname, and_assoc]

namespace Snapshot

variable {snapshot : Snapshot}

theorem any_permits_grantsIn_iff (reference : CrossReference) :
    (snapshot.grantsIn reference.targetNamespace).any (·.permits reference) = true ↔
      snapshot.Grants reference := by
  simp only [List.any_eq_true, grantsIn, Catalog.inNamespace, List.mem_filter, beq_iff_eq,
    ReferenceGrant.permits, Bool.and_eq_true, GrantSource.covers_iff, GrantTarget.covers_iff,
    Grants, ReferenceGrant.key, Metadata.key]
  constructor
  · rintro ⟨grant, ⟨hgrant, _⟩, ⟨hns, source, hsource, rfl⟩, htarget⟩
    exact ⟨grant, hgrant, hns, hsource, htarget⟩
  · rintro ⟨grant, hgrant, hns, hsource, htarget⟩
    exact ⟨grant, ⟨hgrant, hns⟩, ⟨hns, _, hsource, rfl⟩, htarget⟩

/-- A reference is let through exactly when it stays in its namespace or is granted. -/
theorem ensureAuthorized_eq_ok_iff {referrer : ObjectRef} {referrerKind targetKind : GroupKind}
    {target : ObjectKey} {field : String} :
    snapshot.ensureAuthorized referrer referrerKind targetKind target field = .ok () ↔
      (referrer.ns ≠ target.ns →
        snapshot.Grants ⟨referrerKind, referrer.ns, targetKind, target.ns, target.name⟩) := by
  let reference : CrossReference := ⟨referrerKind, referrer.ns, targetKind, target.ns, target.name⟩
  have hleaves : reference.leavesNamespace = true ↔ referrer.ns ≠ target.ns := bne_iff_ne
  have hauthorized : reference.isAuthorized (snapshot.grantsIn target.ns) = true ↔
      (referrer.ns ≠ target.ns → snapshot.Grants reference) := by
    rw [CrossReference.isAuthorized, Bool.or_eq_true, Bool.not_eq_true', ← Bool.not_eq_true,
      hleaves, any_permits_grantsIn_iff reference]
    exact imp_iff_not_or.symm
  have hensure : snapshot.ensureAuthorized referrer referrerKind targetKind target field =
      if reference.isAuthorized (snapshot.grantsIn target.ns) then .ok ()
      else .error (.unauthorized referrer ⟨targetKind.kind, target.ns, target.name⟩ field) := rfl
  rw [hensure, ← hauthorized]
  by_cases h : reference.isAuthorized (snapshot.grantsIn target.ns) = true <;> simp [h]

/-- The only fault is that the reference is refused, since it leaves its namespace and no grant lets
it through. -/
theorem ensureAuthorized_eq_error_iff {referrer : ObjectRef} {referrerKind targetKind : GroupKind}
    {target : ObjectKey} {field : String} {fault : Fault} :
    snapshot.ensureAuthorized referrer referrerKind targetKind target field = .error fault ↔
      fault = .unauthorized referrer ⟨targetKind.kind, target.ns, target.name⟩ field ∧
      referrer.ns ≠ target.ns ∧
      ¬ snapshot.Grants ⟨referrerKind, referrer.ns, targetKind, target.ns, target.name⟩ := by
  have hok : snapshot.ensureAuthorized referrer referrerKind targetKind target field = .ok () ↔ _ :=
    ensureAuthorized_eq_ok_iff
  rw [← Classical.not_imp, ← hok, Snapshot.ensureAuthorized, GatewayCompiler.ensureAuthorized]
  split
  · simp
  · simp [eq_comm]

end Snapshot

namespace CertificateRef

/-- The reference from a Gateway to the Secret of a certificate, in the namespace of the Gateway
unless it names one. -/
def reference (ref : CertificateRef) (gateway : ObjectKey) : CrossReference :=
  ⟨GroupKind.gateway, gateway.ns, GroupKind.secret, ref.ns.getD gateway.ns, ref.name⟩

theorem grants_of_resolve {ref : CertificateRef} {snapshot : Snapshot} {gateway : ObjectRef}
    {field : String} {certificate : CertificatePlan}
    (h : ref.resolve snapshot gateway field = .ok certificate)
    (hleaves : (ref.reference gateway.key).sourceNamespace ≠
      (ref.reference gateway.key).targetNamespace) :
    snapshot.Grants (ref.reference gateway.key) := by
  rw [resolve] at h
  split at h
  · cases h
  · rw [bind_eq_ok] at h
    obtain ⟨_, hauthorized, _⟩ := h
    exact Snapshot.ensureAuthorized_eq_ok_iff.1 hauthorized hleaves

end CertificateRef

namespace BackendRef

/-- The reference from a route to the Service of a backend, in the namespace of the route unless it
names one. -/
def reference (backend : BackendRef) (route : ObjectKey) : CrossReference :=
  ⟨GroupKind.httpRoute, route.ns, GroupKind.service, backend.ns.getD route.ns, backend.name⟩

theorem grants_of_resolve {backend : BackendRef} {snapshot : Snapshot} {route : ObjectRef}
    {field : String} {target : BackendTarget}
    (h : backend.resolve snapshot route field = .ok target)
    (hleaves : (backend.reference route.key).sourceNamespace ≠
      (backend.reference route.key).targetNamespace) :
    snapshot.Grants (backend.reference route.key) := by
  rw [resolve] at h
  split at h
  · cases h
  · split at h
    · cases h
    · rw [bind_eq_ok] at h
      obtain ⟨_, hauthorized, _⟩ := h
      exact Snapshot.ensureAuthorized_eq_ok_iff.1 hauthorized hleaves

end BackendRef

/-- The references that a translation of the Gateway follows. -/
inductive Gateway.Follows (gateway : Gateway) (snapshot : Snapshot) : CrossReference → Prop where
  | certificate {listener : Listener} {tls : ListenerTls} {ref : CertificateRef}
      (hlistener : listener ∈ gateway.listeners) (hprotocol : listener.protocol = "HTTPS")
      (htls : listener.tls = some tls) (href : ref ∈ tls.certificateRefs) :
      Follows gateway snapshot (ref.reference gateway.key)
  | backend {listener : Listener} {route : HttpRoute} {rule : RouteRule} {backend : BackendRef}
      (hlistener : listener ∈ gateway.listeners) (hroute : route ∈ snapshot.routes)
      (hattaches : route.attaches snapshot gateway.key listener = true)
      (hhosts : (Hostname.intersection? listener.hostname route.hostnames).isSome = true)
      (hrule : rule ∈ route.rules) (hfilters : ∀ filter ∈ rule.filters, filter.kind ≠ redirectKind)
      (hbackend : backend ∈ rule.backendRefs) :
      Follows gateway snapshot (backend.reference route.key)

namespace Listener

variable {listener : Listener} {snapshot : Snapshot} {settings : Settings} {gateway : Gateway}
  {index : Nat} {part : ListenerPart}

theorem exists_resolve_of_part (h : listener.part snapshot settings gateway index = .ok part)
    (hprotocol : listener.protocol = "HTTPS") {tls : ListenerTls} (htls : listener.tls = some tls)
    {ref : CertificateRef} (href : ref ∈ tls.certificateRefs) :
    ∃ field certificate, ref.resolve snapshot gateway.ref field = .ok certificate := by
  simp only [Listener.part, Listener.plan, bind_eq_ok] at h
  obtain ⟨_, ⟨plan, hplan, _⟩, _⟩ := h
  simp only [tlsPlan, hprotocol, htls, map_eq_ok] at hplan
  obtain ⟨tlsPlan, hplan, _⟩ := hplan
  rw [ListenerTls.plan] at hplan
  split at hplan
  · cases hplan
  · split at hplan
    · cases hplan
    · rw [bind_eq_ok] at hplan
      obtain ⟨_, hcertificates, _⟩ := hplan
      obtain ⟨place, certificate, hresolve⟩ := exists_eq_ok_at_place hcertificates href
      exact ⟨_, certificate, hresolve⟩

theorem exists_outline_of_part (h : listener.part snapshot settings gateway index = .ok part)
    {route : HttpRoute} (hroute : route ∈ listener.servedRoutes snapshot gateway.key) :
    ∃ outline, route.outline snapshot = .ok outline := by
  obtain ⟨outlines, houtlines, _⟩ := exists_outlines_of_part h
  rw [routeOutlines] at houtlines
  exact exists_eq_ok_of_mem houtlines hroute

end Listener

theorem HttpRoute.exists_resolve_of_outline {route : HttpRoute} {snapshot : Snapshot}
    {outline : Outline} (h : route.outline snapshot = .ok outline) {rule : RouteRule}
    (hrule : rule ∈ route.rules) (hfilters : ∀ filter ∈ rule.filters, filter.kind ≠ redirectKind)
    {backend : BackendRef} (hbackend : backend ∈ rule.backendRefs) :
    ∃ field target, backend.resolve snapshot route.ref field = .ok target := by
  rw [HttpRoute.outline, bind_eq_ok] at h
  obtain ⟨_, houtlines, _⟩ := h
  obtain ⟨ruleIndex, _, houtline⟩ := exists_eq_ok_at_place houtlines hrule
  simp only [RouteRule.outline, bind_eq_ok] at houtline
  obtain ⟨filters, hread, targets, htargets, _⟩ := houtline
  have hredirect := RuleFilters.redirect_of_read hfilters hread
  simp only [RouteRule.targets, hredirect, Option.isSome_none, Bool.false_eq_true, if_false,
    RouteRule.resolveAll] at htargets
  obtain ⟨backendIndex, target, hresolve⟩ := exists_eq_ok_at_place htargets hbackend
  exact ⟨_, target, hresolve⟩

namespace Translator

variable {translator : Translator} {key : ObjectKey} {gateway : Gateway} {graph : Graph}
  {reference : CrossReference}

/-- The parts of a Gateway exist only when every reference that is followed and leaves its namespace
is granted. -/
theorem grants_of_parts {snapshot : Snapshot} {settings : Settings} {parts : List ListenerPart}
    (h : gateway.parts snapshot settings = .ok parts)
    (hfollows : gateway.Follows snapshot reference)
    (hleaves : reference.sourceNamespace ≠ reference.targetNamespace) :
    snapshot.Grants reference := by
  cases hfollows with
  | certificate hlistener hprotocol htls href =>
      obtain ⟨index, part, hpart⟩ := exists_eq_ok_at_place h hlistener
      obtain ⟨field, certificate, hresolve⟩ :=
        Listener.exists_resolve_of_part hpart hprotocol htls href
      exact CertificateRef.grants_of_resolve hresolve hleaves
  | @backend listener route _ _ hlistener hroute hattaches hhosts hrule hfilters hbackend =>
      obtain ⟨index, part, hpart⟩ := exists_eq_ok_at_place h hlistener
      have hserved : route ∈ listener.servedRoutes snapshot gateway.key := by
        apply List.mem_filter.2
        exact ⟨hroute, Bool.and_eq_true_iff.2 ⟨hattaches, hhosts⟩⟩
      obtain ⟨outline, houtline⟩ := Listener.exists_outline_of_part hpart hserved
      obtain ⟨field, target, hresolve⟩ :=
        HttpRoute.exists_resolve_of_outline houtline hrule hfilters hbackend
      exact BackendRef.grants_of_resolve hresolve hleaves

/-- A translation that succeeds has followed no reference into another namespace without a grant,
and a single reference of this sort makes the whole translation fail. -/
theorem grants_of_translate (hgateway : translator.snapshot.gateway? key = some gateway)
    (hfollows : gateway.Follows translator.snapshot reference)
    (hleaves : reference.sourceNamespace ≠ reference.targetNamespace) :
    (∀ graph, (translator.translate key).outcome = .ok graph →
      translator.snapshot.Grants reference) ∧
    (¬ translator.snapshot.Grants reference →
      ∃ fault, (translator.translate key).outcome = .error fault) := by
  have hgrants : ∀ graph, (translator.translate key).outcome = .ok graph →
      translator.snapshot.Grants reference := by
    intro graph hgraph
    obtain ⟨_, other, hother, _, hresources⟩ := outcome_translate_eq_ok_iff.1 hgraph
    rw [hgateway, Option.some.injEq] at hother
    subst hother
    obtain ⟨parts, _, hparts, _⟩ := outcome_resources_eq_ok_iff.1 hresources
    exact grants_of_parts hparts hfollows hleaves
  refine ⟨hgrants, fun hnone => ?_⟩
  cases houtcome : (translator.translate key).outcome with
  | ok graph => exact absurd (hgrants graph houtcome) hnone
  | error fault => exact ⟨fault, rfl⟩

theorem grants_of_sample :
    ∃ graph, (Sample.translator.translate Sample.gateway.key).outcome = .ok graph ∧
      Sample.snapshot.Grants ⟨.gateway, "infra", .secret, "certs", "wildcard"⟩ ∧
      Sample.snapshot.Grants ⟨.httpRoute, "shop", .service, "data", "orders"⟩ := by
  have hrun : (Sample.translator.translate Sample.gateway.key).outcome.map Graph.size = .ok 10 := by
    decide +kernel
  obtain ⟨graph, hgraph, _⟩ := map_eq_ok.1 hrun
  have hgateway : Sample.translator.snapshot.gateway? Sample.gateway.key = some Sample.gateway := by
    decide +kernel
  have hcertificate : Sample.gateway.Follows Sample.snapshot
      ⟨.gateway, "infra", .secret, "certs", "wildcard"⟩ := by
    have href : (⟨none, none, "wildcard", some "certs"⟩ : CertificateRef) ∈
        [(⟨none, none, "wildcard", some "certs"⟩ : CertificateRef)] := List.mem_cons_self
    exact .certificate (by decide : Sample.https ∈ Sample.gateway.listeners) rfl rfl href
  have hbackend : Sample.gateway.Follows Sample.snapshot
      ⟨.httpRoute, "shop", .service, "data", "orders"⟩ := by
    have hroute : Sample.cart ∈ Sample.snapshot.routes := by decide +kernel
    have hmem : Sample.backend (some "data") "orders" (some 3) ∈
        [Sample.backend none "web" none, Sample.backend (some "data") "orders" (some 3)] := by
      decide
    exact .backend (by decide : Sample.http ∈ Sample.gateway.listeners) hroute (by decide +kernel)
      (by decide +kernel) List.mem_cons_self (by decide) hmem
  exact ⟨graph, hgraph, (grants_of_translate hgateway hcertificate (by decide)).1 graph hgraph,
    (grants_of_translate hgateway hbackend (by decide)).1 graph hgraph⟩

end Translator

end GatewayCompiler
