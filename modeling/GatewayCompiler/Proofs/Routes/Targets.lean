import GatewayCompiler.Proofs.Routes.Filters
import GatewayCompiler.Proofs.Routes.Outline

/-!
# Service ports that backends lead to

Where a backend leads is a matter of the snapshot alone: to the port that it names of the Service
that it names.  The Service ports of an outline are those that the backends of its rules lead to,
one for each backend and in declared order, save for the rules that redirect.
-/

namespace GatewayCompiler

namespace BackendRef

variable {backend : BackendRef} {snapshot : Snapshot} {route : ObjectRef} {field : String}
  {service : Service} {port : ServicePort} {target : BackendTarget}

/-- The key of the Service that a backend of a route in this namespace names. -/
def serviceKey (backend : BackendRef) (ns : String) : ObjectKey :=
  ⟨backend.ns.getD ns, backend.name⟩

/-- The port of the Service that a backend names, by number or by name. -/
def servicePort? (backend : BackendRef) (service : Service) : Option ServicePort :=
  match backend.port with
  | none => none
  | some (.number number) => service.portByNumber? number
  | some (.name name) => service.portByName? name

/-- The Service port that a backend of a route in this namespace leads to. -/
def target? (backend : BackendRef) (snapshot : Snapshot) (ns : String) : Option BackendTarget := do
  let service ← snapshot.service? (backend.serviceKey ns)
  let port ← backend.servicePort? service
  return ⟨service, port⟩

theorem portOf_eq_ok_iff :
    backend.portOf route service field = .ok port ↔ backend.servicePort? service = some port := by
  cases hport : backend.port with
  | none => simp [portOf, servicePort?, hport]
  | some named =>
      cases named with
      | number number =>
          cases hfound : service.portByNumber? number <;>
            simp [portOf, servicePort?, hport, hfound]
      | name name =>
          cases hfound : service.portByName? name <;> simp [portOf, servicePort?, hport, hfound]

/-- A backend is resolved exactly when it names a Service without filters, may refer to it, and
leads to a port of it. -/
theorem resolve_eq_ok_iff :
    backend.resolve snapshot route field = .ok target ↔
      backend.groupKind = GroupKind.service ∧ backend.filters = [] ∧
      snapshot.ensureAuthorized route GroupKind.httpRoute GroupKind.service
        (backend.serviceKey route.ns) field = .ok () ∧
      backend.target? snapshot route.ns = some target := by
  have hlead : ∀ service, BackendTarget.mk service <$> backend.portOf route service field =
      .ok target ↔ ∃ port, backend.servicePort? service = some port ∧ ⟨service, port⟩ = target := by
    intro service
    change (backend.portOf route service field).map (BackendTarget.mk service) = .ok target ↔ _
    simp only [map_eq_ok, portOf_eq_ok_iff]
  have htarget : backend.target? snapshot route.ns = some target ↔
      ∃ service, snapshot.service? (backend.serviceKey route.ns) = some service ∧
        ∃ port, backend.servicePort? service = some port ∧ ⟨service, port⟩ = target := by
    simp [target?, Option.bind_eq_some_iff]
  rw [htarget]
  by_cases hkind : backend.groupKind = GroupKind.service
  · cases hfilters : backend.filters with
    | cons filter filters => simp [resolve, hkind, hfilters, bind_eq_ok]
    | nil =>
        rw [serviceKey]
        cases hservice : snapshot.service? ⟨backend.ns.getD route.ns, backend.name⟩ with
        | none => simp [resolve, hkind, hfilters, hservice, bind_eq_ok]
        | some service =>
            simp [resolve, hkind, hfilters, hservice, bind_eq_ok, hlead, Unique.exists_iff]
  · simp [resolve, hkind, bind_eq_ok]

theorem service?_of_target? {ns : String} (h : backend.target? snapshot ns = some target) :
    snapshot.service? (backend.serviceKey ns) = some target.service ∧
      backend.servicePort? target.service = some target.port := by
  simp only [target?, Option.bind_eq_bind, Option.pure_def, Option.bind_eq_some_iff,
    Option.some.injEq] at h
  obtain ⟨service, hservice, port, hport, rfl⟩ := h
  exact ⟨hservice, hport⟩

/-- A backend leads to a port of the very Service that it names. -/
theorem key_of_target? {ns : String} (h : backend.target? snapshot ns = some target) :
    target.service.key = backend.serviceKey ns :=
  Catalog.key_eq_of_get? (service?_of_target? h).1

end BackendRef

namespace RouteRule

/-- A rule redirects when one of its filters does. -/
def redirects (rule : RouteRule) : Bool :=
  rule.filters.any (·.kind == redirectKind)

/-- The backends that a rule has a use for: all of them, whatever their weights, unless it
redirects. -/
def followed (rule : RouteRule) : List BackendRef :=
  if rule.redirects then [] else rule.backendRefs

theorem mem_followed_iff {rule : RouteRule} {backend : BackendRef} :
    backend ∈ rule.followed ↔
      (∀ filter ∈ rule.filters, filter.kind ≠ redirectKind) ∧ backend ∈ rule.backendRefs := by
  have hredirects : rule.redirects = false ↔
      ∀ filter ∈ rule.filters, filter.kind ≠ redirectKind := by
    simp [redirects]
  rw [← hredirects, followed]
  cases rule.redirects <;> simp

theorem map_targets_of_outline {rule : RouteRule} {snapshot : Snapshot} {route : HttpRoute}
    {ruleIndex : Nat} {outline : Outline}
    (h : rule.outline snapshot route ruleIndex = .ok outline) :
    outline.targets.map some = rule.followed.map (·.target? snapshot route.namespaceName) := by
  simp only [RouteRule.outline, bind_eq_ok, pure_eq_ok] at h
  obtain ⟨filters, hread, targets, htargets, _, _, _, _, rfl⟩ := h
  rw [RouteRule.targets, RuleFilters.isSome_redirect_of_read hread, ← redirects] at htargets
  by_cases hredirects : rule.redirects = true
  · rw [if_pos hredirects, Except.ok.injEq] at htargets
    rw [followed, if_pos hredirects, ← htargets]
    rfl
  · rw [if_neg hredirects, resolveAll] at htargets
    rw [followed, if_neg hredirects]
    apply map_eq_of_mapM_zipIdx htargets
    intro backend index target hresolve
    exact (BackendRef.resolve_eq_ok_iff.1 hresolve).2.2.2.symm

end RouteRule

namespace HttpRoute

/-- The backends of a route that its rules have a use for, in declared order. -/
def followed (route : HttpRoute) : List BackendRef :=
  route.rules.flatMap (·.followed)

/-- The Service ports of an outline are those that the followed backends lead to, one for each. -/
theorem map_targets_of_outline {route : HttpRoute} {snapshot : Snapshot} {outline : Outline}
    (h : route.outline snapshot = .ok outline) :
    outline.targets.map some = route.followed.map (·.target? snapshot route.namespaceName) := by
  simp only [HttpRoute.outline, bind_eq_ok, pure_eq_ok] at h
  obtain ⟨outlines, houtlines, rfl⟩ := h
  rw [List.map_flatMap, followed, List.map_flatMap]
  apply flatMap_eq_of_mapM_zipIdx houtlines
  intro rule ruleIndex outline houtline
  exact RouteRule.map_targets_of_outline houtline

end HttpRoute

end GatewayCompiler
