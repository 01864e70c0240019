import GatewayCompiler.Proofs.Gateway.References
import GatewayCompiler.Proofs.Routes.Lockstep

/-!
# Grants that are added

A grant lets references through and does nothing else.  When grants are added, what a translation
makes of a Gateway stays as it is, unless it was refused for want of a grant.
-/

namespace GatewayCompiler

namespace Snapshot

/-- The snapshot with these grants put into it. -/
def addGrants (snapshot : Snapshot) (grants : List ReferenceGrant) : Snapshot :=
  grants.foldl (fun snapshot grant => snapshot.insert (.referenceGrant grant)) snapshot

/-- Snapshots of which the second has what the first has and perhaps more grants. -/
structure AddsGrants (s t : Snapshot) : Prop where
  namespaces : s.namespaces = t.namespaces
  gateways : s.gateways = t.gateways
  httpRoutes : s.httpRoutes = t.httpRoutes
  services : s.services = t.services
  secrets : s.secrets = t.secrets
  referenceGrants : ∀ key grant, s.referenceGrants.get? key = some grant →
    t.referenceGrants.get? key = some grant

variable {s t : Snapshot}

theorem AddsGrants.insert (h : s.AddsGrants t) {grant : ReferenceGrant}
    (hnew : s.referenceGrants.get? grant.key = none) :
    s.AddsGrants (t.insert (.referenceGrant grant)) where
  namespaces := h.namespaces
  gateways := h.gateways
  httpRoutes := h.httpRoutes
  services := h.services
  secrets := h.secrets
  referenceGrants := by
    intro key other hother
    have hdiffers : grant.key ≠ key := by
      rintro rfl
      rw [hnew] at hother
      cases hother
    exact (Table.get?_insert_of_ne hdiffers).trans (h.referenceGrants key other hother)

/-- Grants of keys that are not taken take the place of none. -/
theorem addsGrants_addGrants {grants : List ReferenceGrant}
    (hnew : ∀ grant ∈ grants, s.referenceGrants.get? grant.key = none) :
    s.AddsGrants (s.addGrants grants) := by
  induction grants using List.reverseRecOn with
  | nil => exact ⟨rfl, rfl, rfl, rfl, rfl, fun _ _ h => h⟩
  | append_singleton grants grant ih =>
      rw [addGrants, List.foldl_append]
      have hgrants := ih fun other hother => hnew other (List.mem_append_left _ hother)
      exact hgrants.insert (hnew grant (by simp))

theorem AddsGrants.grants (h : s.AddsGrants t) {reference : CrossReference}
    (hgrants : s.Grants reference) : t.Grants reference := by
  obtain ⟨grant, hgrant, hpermits⟩ := hgrants
  have hkept := h.referenceGrants grant.key grant (Catalog.mem_values_iff.1 hgrant)
  exact ⟨grant, Catalog.mem_values_iff.2 hkept, hpermits⟩

end Snapshot

section Steps

open Snapshot (AddsGrants)

variable {s t : Snapshot}

/-- Steps that may build clusters and are the same unless the first run is a refusal. -/
abbrev buildingUnlessRefused : Agreement Building :=
  unlessRefused.withState

theorem Snapshot.agree_ensureAuthorized (h : s.AddsGrants t) (referrer : ObjectRef)
    (referrerKind targetKind : GroupKind) (target : ObjectKey) (field : String) :
    unlessRefused.Agree (s.ensureAuthorized referrer referrerKind targetKind target field)
      (t.ensureAuthorized referrer referrerKind targetKind target field) := by
  cases hs : s.ensureAuthorized referrer referrerKind targetKind target field with
  | error fault =>
      obtain ⟨rfl, _⟩ := Snapshot.ensureAuthorized_eq_error_iff.1 hs
      exact .inl ⟨_, _, _, rfl⟩
  | ok _ =>
      right
      have hauthorized := Snapshot.ensureAuthorized_eq_ok_iff.1 hs
      exact (Snapshot.ensureAuthorized_eq_ok_iff.2 fun hleaves =>
        h.grants (hauthorized hleaves)).symm

theorem CertificateRef.agree_resolve (h : s.AddsGrants t) (ref : CertificateRef)
    (gateway : ObjectRef) (field : String) :
    unlessRefused.Agree (ref.resolve s gateway field) (ref.resolve t gateway field) := by
  have hsecret : s.secret? = t.secret? := by
    funext key
    rw [Snapshot.secret?, Snapshot.secret?, h.secrets]
  rw [resolve, resolve, ← hsecret]
  split
  · exact unlessRefused.refl _
  · apply unlessRefused.bind (Snapshot.agree_ensureAuthorized h gateway _ _ _ field)
    intro _
    exact unlessRefused.refl _

theorem BackendRef.agree_resolve (h : s.AddsGrants t) (backend : BackendRef) (route : ObjectRef)
    (field : String) :
    unlessRefused.Agree (backend.resolve s route field) (backend.resolve t route field) := by
  have hservice : s.service? = t.service? := by
    funext key
    rw [Snapshot.service?, Snapshot.service?, h.services]
  rw [resolve, resolve, ← hservice]
  split
  · exact unlessRefused.refl _
  · split
    · exact unlessRefused.refl _
    · apply unlessRefused.bind (Snapshot.agree_ensureAuthorized h route _ _ _ field)
      intro _
      exact unlessRefused.refl _

theorem BackendRef.agree_cluster (h : s.AddsGrants t) (backend : BackendRef) (rules : ClusterRules)
    (route : ObjectRef) (field : String) :
    buildingUnlessRefused.Agree (backend.cluster s rules route field)
      (backend.cluster t rules route field) := by
  apply buildingUnlessRefused.bind
  · exact unlessRefused.lift_withState (BackendRef.agree_resolve h backend route field)
  · intro target
    exact buildingUnlessRefused.refl _

namespace Listener

/-- A listener serves the same routes, and these ask for the same clusters. -/
theorem agree_configuration (h : s.AddsGrants t) (listener : Listener)
    (rules : ClusterRules) (gateway : ObjectKey) :
    buildingUnlessRefused.Agree (listener.routeConfiguration s rules gateway)
      (listener.routeConfiguration t rules gateway) := by
  have hserved := servedRoutes_congr h.namespaces h.httpRoutes listener gateway
  apply agree_routeConfiguration buildingUnlessRefused.building hserved
  intro route _
  exact BuildingRelation.agree_plans fun backend field =>
    BackendRef.agree_cluster h backend rules route.ref field

theorem agree_tlsPlan (h : s.AddsGrants t) (listener : Listener) (gateway : ObjectRef)
    (field : String) :
    unlessRefused.Agree (listener.tlsPlan s gateway field) (listener.tlsPlan t gateway field) := by
  have hplan : ∀ (tls : ListenerTls) (field : String), unlessRefused.Agree
      (tls.plan s gateway field) (tls.plan t gateway field) := by
    intro tls field
    rw [ListenerTls.plan, ListenerTls.plan]
    split
    · exact unlessRefused.refl _
    · split
      · exact unlessRefused.refl _
      · apply unlessRefused.bind
        · apply unlessRefused.mapM
          rintro ⟨ref, index⟩
          exact CertificateRef.agree_resolve h ref gateway _
        · intro certificates
          exact unlessRefused.refl _
  unfold tlsPlan
  split
  case h_4 tls _ _ =>
    exact unlessRefused.bind (hplan tls _) fun _ => unlessRefused.refl _
  all_goals exact unlessRefused.refl _

theorem agree_plan (h : s.AddsGrants t) (listener : Listener) (settings : Settings)
    (gateway : Gateway) (index : Nat) :
    unlessRefused.Agree (listener.plan s settings gateway index)
      (listener.plan t settings gateway index) := by
  apply unlessRefused.bind (agree_tlsPlan h listener gateway.ref _)
  intro tls
  exact unlessRefused.refl _

end Listener

end Steps

/-- A grant that lets routes of another namespace send traffic to every Service of `data`. -/
def Sample.openGrant : ReferenceGrant :=
  ⟨metadata "data" "open", [⟨gatewayGroup, "HTTPRoute", "blog"⟩], [⟨coreGroup, "Service", none⟩]⟩

namespace Translator

variable {s t : Snapshot}

theorem agree_addListener (h : s.AddsGrants t) (settings : Settings) (policy : EndpointPolicy)
    (gateway : Gateway) (state : Graph × BackendClusters) (entry : Listener × Nat) :
    reportUnlessRefused.Agree (addListener ⟨s, settings, policy⟩ gateway state entry)
      (addListener ⟨t, settings, policy⟩ gateway state entry) := by
  obtain ⟨listener, index⟩ := entry
  apply reportUnlessRefused.bind
  · exact lift_reportUnlessRefused (Listener.agree_plan h listener settings gateway index)
  · intro listenerPlan
    apply reportUnlessRefused.bind
    · exact lift_reportUnlessRefused
        (Listener.agree_configuration h listener _ gateway.key state.2)
    · intro planned
      exact reportUnlessRefused.refl _

/-- Translations of a snapshot and of one with more grants agree unless the first is refused. -/
theorem agree_translate (h : s.AddsGrants t) (settings : Settings) (policy : EndpointPolicy)
    (key : ObjectKey) :
    reportUnlessRefused.Agree (translate ⟨s, settings, policy⟩ key)
      (translate ⟨t, settings, policy⟩ key) := by
  have hgateway : s.gateway? key = t.gateway? key := by
    rw [Snapshot.gateway?, Snapshot.gateway?, h.gateways]
  have hresources : ∀ gateway, reportUnlessRefused.Agree
      (resources ⟨s, settings, policy⟩ gateway) (resources ⟨t, settings, policy⟩ gateway) := by
    intro gateway
    apply reportUnlessRefused.bind
    · exact reportUnlessRefused.foldlM (agree_addListener h settings policy gateway) _ _
    · intro state
      exact reportUnlessRefused.refl _
  apply reportUnlessRefused.bind (reportUnlessRefused.refl _)
  intro _
  simp only [← hgateway]
  split
  · apply reportUnlessRefused.bind (reportUnlessRefused.refl _)
    intro _
    apply reportUnlessRefused.bind (hresources _)
    intro graph
    exact reportUnlessRefused.refl _
  · exact reportUnlessRefused.refl _

/-- The translator of a snapshot with these grants put into it. -/
def addGrants (translator : Translator) (grants : List ReferenceGrant) : Translator :=
  { translator with snapshot := translator.snapshot.addGrants grants }

/-- Grants of new keys change no translation that succeeds, and none that fails for another reason
than a reference that is refused.  So taking grants away again can only have a reference refused. -/
theorem translate_addGrants {translator : Translator} {grants : List ReferenceGrant}
    (hnew : ∀ grant ∈ grants, translator.snapshot.referenceGrants.get? grant.key = none)
    (key : ObjectKey) :
    (∀ graph, (translator.translate key).outcome = .ok graph →
      (translator.addGrants grants).translate key = translator.translate key) ∧
    (∀ fault, (translator.translate key).outcome = .error fault →
      fault.category ≠ "unauthorized-reference" →
      (translator.addGrants grants).translate key = translator.translate key) ∧
    (∀ graph, ((translator.addGrants grants).translate key).outcome = .ok graph →
      (translator.translate key).outcome = .ok graph ∨
      ∃ fault, (translator.translate key).outcome = .error fault ∧
        fault.category = "unauthorized-reference") := by
  have hadds := Snapshot.addsGrants_addGrants hnew
  have hagree : IsRefused (translator.translate key).outcome ∨
      translator.translate key = (translator.addGrants grants).translate key :=
    agree_translate hadds translator.settings translator.policy key
  obtain ⟨source, target, field, hrefused⟩ | hsame := hagree
  · rw [hrefused]
    refine ⟨?_, ?_, ?_⟩
    · intro graph h
      cases h
    · rintro _ ⟨⟩ hcategory
      exact absurd rfl hcategory
    · intro graph _
      exact .inr ⟨_, rfl, rfl⟩
  · refine ⟨fun _ _ => hsame.symm, fun _ _ _ => hsame.symm, ?_⟩
    intro graph hgraph
    rw [hsame]
    exact .inl hgraph

theorem translate_addGrants_of_sample :
    ∃ graph, (Sample.translator.translate Sample.gateway.key).outcome = .ok graph ∧
      ((Sample.translator.addGrants [Sample.openGrant]).translate Sample.gateway.key).outcome =
        .ok graph := by
  have hnew : ∀ grant ∈ [Sample.openGrant],
      Sample.translator.snapshot.referenceGrants.get? grant.key = none := by
    decide +kernel
  have hrun : (Sample.translator.translate Sample.gateway.key).outcome.map Graph.size = .ok 10 := by
    decide +kernel
  obtain ⟨graph, hgraph, _⟩ := map_eq_ok.1 hrun
  have hsame := (translate_addGrants hnew Sample.gateway.key).1 graph hgraph
  exact ⟨graph, hgraph, by rw [hsame, hgraph]⟩

end Translator

end GatewayCompiler
