import GatewayCompiler.Proofs.Faults.Route

/-!
# Faults of a Gateway

A translation of a Gateway goes through its listeners, through the certificates of each and through
the routes that it serves.  Its faults are those of these parts.  What is planned for a listener
always becomes a message, and the check of the whole graph adds no fault.
-/

namespace GatewayCompiler

/-- The key of the Secret that a reference from a Gateway in this namespace names. -/
def CertificateRef.secretKey (ref : CertificateRef) (ns : String) : ObjectKey :=
  ⟨ref.ns.getD ns, ref.name⟩

/-- The references to certificates of a listener. -/
def Listener.certificateRefs (listener : Listener) : List CertificateRef :=
  (listener.tls.map (·.certificateRefs)).getD []

/-- The references to certificates of all listeners of a Gateway. -/
def Gateway.certificateRefs (gateway : Gateway) : List CertificateRef :=
  gateway.listeners.flatMap (·.certificateRefs)

/-- The faults that a translation of a Gateway may end in. -/
inductive Gateway.Reports (gateway : Gateway) (snapshot : Snapshot) : Fault → Prop where
  | own {fault : Fault} (habout : fault.IsAbout gateway.ref) : Reports gateway snapshot fault
  | secret {ref : CertificateRef} {secret : Secret} {fault : Fault}
      (href : ref ∈ gateway.certificateRefs)
      (hsecret : snapshot.secret? (ref.secretKey gateway.key.ns) = some secret)
      (habout : fault.IsAbout secret.ref) : Reports gateway snapshot fault
  | absent {ref : CertificateRef} (href : ref ∈ gateway.certificateRefs)
      (hnone : snapshot.secret? (ref.secretKey gateway.key.ns) = none)
      (referrer : Option String) :
      Reports gateway snapshot <| .notFound
        ⟨"Secret", ref.ns.getD gateway.key.ns, ref.name⟩ referrer
  | refused {ref : CertificateRef} (href : ref ∈ gateway.certificateRefs)
      (hleaves : gateway.key.ns ≠ ref.ns.getD gateway.key.ns)
      (hnone : ¬ snapshot.Grants (ref.reference gateway.key)) (field : String) :
      Reports gateway snapshot <| .unauthorized gateway.ref
        ⟨"Secret", ref.ns.getD gateway.key.ns, ref.name⟩ field
  | route {listener : Listener} {route : HttpRoute} {fault : Fault}
      (hlistener : listener ∈ gateway.listeners)
      (hroute : route ∈ listener.servedRoutes snapshot gateway.key)
      (hreports : route.Reports snapshot fault) : Reports gateway snapshot fault

section Certificates

variable {snapshot : Snapshot} {gateway : Gateway}

theorem Secret.failsOnly_certificate (secret : Secret) :
    FailsOnly (Fault.IsAbout secret.ref) secret.certificate := by
  have hbytes : ∀ key, FailsOnly (Fault.IsAbout secret.ref) (secret.requiredBytes key) := by
    intro key
    simp only [requiredBytes]
    split
    case h_2 => exact .ok _
    all_goals exact .error (.invalid _ _)
  exact .bind (hbytes _) fun _ _ => .bind (hbytes _) fun _ _ => .pure _

theorem CertificateRef.failsOnly_resolve {ref : CertificateRef}
    (href : ref ∈ gateway.certificateRefs) (field : String) :
    FailsOnly (gateway.Reports snapshot) (ref.resolve snapshot gateway.ref field) := by
  simp only [resolve]
  split
  · exact .throw_bind (.own (.unsupported _ _)) _
  · apply FailsOnly.bind
    · intro fault hfault
      obtain ⟨rfl, hleaves, hnone⟩ := Snapshot.ensureAuthorized_eq_error_iff.1 hfault
      exact .refused href hleaves hnone field
    · intro _ _
      split
      · rename_i secret hsecret
        exact secret.failsOnly_certificate.mono fun fault habout => .secret href hsecret habout
      · rename_i hsecret
        exact .throw (.absent href (Option.eq_none_iff_forall_ne_some.2 hsecret) _)

theorem ListenerTls.failsOnly_plan {tls : ListenerTls}
    (hrefs : ∀ ref ∈ tls.certificateRefs, ref ∈ gateway.certificateRefs) (field : String) :
    FailsOnly (gateway.Reports snapshot) (tls.plan snapshot gateway.ref field) := by
  simp only [ListenerTls.plan]
  split
  · exact .throw_bind (.own (.unsupported _ _)) _
  · split
    · exact .throw_bind (.own (.invalid _ _)) _
    · refine .bind (.mapM ?_) fun _ _ => .pure _
      intro entry hentry
      have href := List.fst_mem_of_mem_zipIdx hentry
      exact CertificateRef.failsOnly_resolve (hrefs entry.1 href) _

end Certificates

namespace Listener

variable {snapshot : Snapshot} {settings : Settings} {rules : ClusterRules} {gateway : Gateway}
  {listener : Listener} {index : Nat}

theorem failsOnly_tlsPlan (hlistener : listener ∈ gateway.listeners) (field : String) :
    FailsOnly (gateway.Reports snapshot) (listener.tlsPlan snapshot gateway.ref field) := by
  unfold tlsPlan
  split
  · exact .ok _
  · exact .error (.own (.invalid _ _))
  · exact .error (.own (.invalid _ _))
  · rename_i tls _ htls
    refine .map (ListenerTls.failsOnly_plan ?_ _) _
    intro ref href
    refine List.mem_flatMap.2 ⟨listener, hlistener, ?_⟩
    rw [certificateRefs, htls]
    exact href
  · exact .error (.own (.unsupported _ _))

theorem failsOnly_plan (hlistener : listener ∈ gateway.listeners) (index : Nat) :
    FailsOnly (gateway.Reports snapshot) (listener.plan snapshot settings gateway index) :=
  .bind (failsOnly_tlsPlan hlistener _) fun _ _ => .pure _

/-- A planned listener has a chain, so it becomes a message. -/
theorem failsOnly_toListener {P : Fault → Prop} {plan : ListenerPlan}
    (h : listener.plan snapshot settings gateway index = .ok plan) :
    FailsOnly P plan.toListener := by
  rw [Listener.plan, bind_eq_ok] at h
  obtain ⟨tls, _, h⟩ := h
  rw [pure_eq_ok] at h
  subst h
  exact .ok _

theorem failsOnly_routeConfiguration (hlistener : listener ∈ gateway.listeners)
    (htimeout : isValidTimeout rules.connectTimeoutSeconds = true) (built : BackendClusters) :
    FailsOnly (gateway.Reports snapshot)
      ((listener.routeConfiguration snapshot rules gateway.key).run built) := by
  refine .run_bind (.run_foldlM ?_ [] built) fun _ _ _ => .pure _
  intro hosts route hroute built
  rw [addRoute, HttpRoute.domains?_eq_ite]
  cases hserved : route.isServed snapshot gateway.key listener with
  | false => exact .pure _
  | true =>
      refine .run_bind ?_ fun _ _ _ => .pure _
      have hmem : route ∈ listener.servedRoutes snapshot gateway.key :=
        List.mem_filter.2 ⟨hroute, hserved⟩
      exact (HttpRoute.failsOnly_plans htimeout built).mono fun _ => .route hlistener hmem

end Listener

/-- The check of the names of listeners has only the Gateway to complain of. -/
theorem failsOnly_checkListeners {gateway : Gateway} (index : Nat) (earlier rest : List Listener) :
    FailsOnly (Fault.IsAbout gateway.ref) (checkListeners gateway index earlier rest).outcome := by
  induction rest generalizing index earlier with
  | nil => exact .pure _
  | cons listener rest ih =>
      rw [checkListeners]
      split
      · rw [Report.outcome_bind]
        exact .bind (.error (.invalid _ _)) fun _ h => nomatch h
      · split
        · rw [Report.outcome_bind]
          exact .bind (.ok _) fun _ _ => ih _ _
        · exact ih _ _

theorem Settings.isValidTimeout_of_validate {settings : Settings}
    (h : settings.validate = .ok ()) : isValidTimeout settings.connectTimeoutSeconds = true := by
  rw [validate, settingsFault] at h
  split at h
  · rename_i hnone
    simp only [problems, List.append_eq_nil_iff, ite_eq_left_iff] at hnone
    simpa using hnone.1.2
  · cases h

namespace Translator

variable {translator : Translator} {key : ObjectKey} {gateway : Gateway}

theorem failsOnly_resources (hvalid : translator.settings.validate = .ok ()) :
    FailsOnly (gateway.Reports translator.snapshot) (translator.resources gateway).outcome := by
  have htimeout : isValidTimeout translator.clusterRules.connectTimeoutSeconds = true :=
    Settings.isValidTimeout_of_validate hvalid
  rw [resources, Report.outcome_bind, Report.outcome_foldlM]
  refine .bind (.foldlM ?_ _) fun _ _ => .pure _
  intro state entry hentry
  have hlistener : entry.1 ∈ gateway.listeners := List.fst_mem_of_mem_zipIdx hentry
  simp only [addListener, Report.outcome_bind, Report.outcome_liftM]
  refine .bind (Listener.failsOnly_plan hlistener entry.2) fun listenerPlan hplan => ?_
  refine .bind (Listener.failsOnly_routeConfiguration hlistener htimeout state.2) fun _ hrun => ?_
  refine .bind (.ok _) fun _ _ => ?_
  refine .bind (Listener.failsOnly_toListener hplan) fun _ _ => ?_
  refine .bind ?_ fun _ _ => .pure _
  obtain ⟨outlines, houtlines, hgrouped, _⟩ := Listener.run_routeConfiguration_eq_ok_iff.1 hrun
  rw [hgrouped]
  exact Listener.failsOnly_toConfiguration houtlines

/-- With valid settings, a translation of a Gateway that is there ends in a graph or in one of the
faults of the Gateway. -/
theorem failsOnly_translate (hvalid : translator.settings.validate = .ok ())
    (hgateway : translator.snapshot.gateway? key = some gateway) :
    FailsOnly (gateway.Reports translator.snapshot) (translator.translate key).outcome := by
  simp only [translate, hgateway, Report.outcome_bind, Report.outcome_liftM, hvalid]
  refine .bind (.ok _) fun _ _ => ?_
  refine .bind ((failsOnly_checkListeners 0 [] _).mono fun _ => .own) fun _ _ => ?_
  refine .bind (failsOnly_resources hvalid) fun graph hgraph => ?_
  -- What has been assembled is closed, so the check passes.
  rw [checkConsistency_eq_ok hgraph]
  exact .bind (.ok _) fun _ _ => .pure _

/-- The translation of a Gateway that is not there says so. -/
theorem outcome_translate_of_none (hvalid : translator.settings.validate = .ok ())
    (hgateway : translator.snapshot.gateway? key = none) :
    (translator.translate key).outcome = .error (.notFound ⟨"Gateway", key.ns, key.name⟩ none) := by
  simp only [translate, hgateway, Report.outcome_bind, Report.outcome_liftM, hvalid]
  rfl

end Translator

end GatewayCompiler
