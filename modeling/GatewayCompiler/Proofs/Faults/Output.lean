import GatewayCompiler.Proofs.Faults.Attribution

/-!
# Faults of the output

A fault of the output says that a resource does not hold together, which no input should bring
about.  None does, as long as no backend leads to a Service port of number zero: a manifest may give
a port this number, and nothing refuses it before its load assignment is built.
-/

namespace GatewayCompiler

/-- No backend that a translation of the Gateway follows leads to a port of number zero. -/
def Gateway.FollowsNumbered (gateway : Gateway) (snapshot : Snapshot) : Prop :=
  ∀ entry ∈ gateway.followed snapshot, ∀ target ∈ entry.target? snapshot, target.port.port ≠ 0

/-- Whatever is planned for a Gateway becomes a message: the listeners, the route configurations
whatever clusters are built before, and the load assignments and clusters of the endpoints that
followed backends lead to. -/
structure Translator.Converts (translator : Translator) (gateway : Gateway) : Prop where
  listeners : ∀ entry ∈ gateway.listeners.zipIdx, ∀ plan,
    entry.1.plan translator.snapshot translator.settings gateway entry.2 = .ok plan →
    ∃ listener, plan.toListener = .ok listener
  configurations : ∀ listener ∈ gateway.listeners, ∀ built built' plan,
    (listener.routeConfiguration translator.snapshot translator.clusterRules gateway.key).run
      built = .ok (plan, built') →
    ∃ configuration, plan.toConfiguration = .ok configuration
  assignments : ∀ entry ∈ gateway.followed translator.snapshot,
    ∀ target ∈ entry.target? translator.snapshot, ∀ endpoint,
      translator.policy.endpoint target.service target.port = .ok endpoint →
      ∃ assignment, AssignmentPlan.toAssignment ⟨target.clusterName, [endpoint]⟩ = .ok assignment
  clusters : ∀ entry ∈ gateway.followed translator.snapshot,
    ∀ target ∈ entry.target? translator.snapshot, ∀ endpoint,
      translator.policy.endpoint target.service target.port = .ok endpoint →
      ∃ cluster, ClusterPlan.toCluster ⟨target.clusterName, translator.policy.discovery [endpoint],
        translator.settings.connectTimeoutSeconds⟩ = .ok cluster

theorem FailsOnly.exists_eq_ok {α : Type} {x : Except Fault α}
    (h : FailsOnly (fun _ => False) x) : ∃ a, x = .ok a := by
  cases x with
  | error fault => exact (h fault rfl).elim
  | ok a => exact ⟨a, rfl⟩

namespace Translator

variable {translator : Translator} {gateway : Gateway} {key : ObjectKey}

theorem converts_of_numbered (hvalid : translator.settings.validate = .ok ())
    (hports : gateway.FollowsNumbered translator.snapshot) : translator.Converts gateway := by
  have htimeout := Settings.isValidTimeout_of_validate hvalid
  refine ⟨?_, ?_, ?_, ?_⟩
  · intro entry _ plan hplan
    exact (Listener.failsOnly_toListener hplan).exists_eq_ok
  · intro listener _ built built' plan hrun
    obtain ⟨outlines, houtlines, rfl, _⟩ := Listener.run_routeConfiguration_eq_ok_iff.1 hrun
    exact (Listener.failsOnly_toConfiguration houtlines).exists_eq_ok
  · intro entry hentry target htarget endpoint hendpoint
    have hport := hports entry hentry target htarget
    rw [EndpointPolicy.toAssignment_of_endpoint hendpoint, if_neg hport]
    exact ⟨_, rfl⟩
  · intro entry hentry target htarget endpoint hendpoint
    have hport := hports entry hentry target htarget
    exact (EndpointPolicy.failsOnly_toCluster hendpoint hport target.clusterName_ne_empty
      htimeout).exists_eq_ok

/-- With valid settings and Service ports that have a number, every fault is one of the input, and
whatever is planned becomes a message. -/
theorem category_of_translate (hvalid : translator.settings.validate = .ok ())
    (hports : ∀ gateway, translator.snapshot.gateway? key = some gateway →
      gateway.FollowsNumbered translator.snapshot) :
    (∀ fault, (translator.translate key).outcome = .error fault →
      fault.category ∈ Fault.inputCategories) ∧
    ∀ gateway, translator.snapshot.gateway? key = some gateway →
      translator.Converts gateway := by
  refine ⟨?_, fun gateway hgateway => converts_of_numbered hvalid (hports gateway hgateway)⟩
  intro fault hfault
  obtain hattributed | ⟨gateway, hgateway, entry, hentry, target, htarget, hzero, _⟩ :=
    isAttributed_or_port hvalid hfault
  · exact hattributed.category
  · exact absurd hzero (hports gateway hgateway entry hentry target htarget)

theorem category_of_sample :
    (∃ fault, (Translator.translate ⟨Sample.probed, .default, .clusterIp⟩
        Sample.gateway.key).outcome = .error fault ∧ fault.category ∈ Fault.inputCategories) ∧
      Translator.Converts ⟨Sample.probed, .default, .clusterIp⟩ Sample.gateway := by
  have hvalid : Settings.default.validate = .ok () := by
    decide +kernel
  have hgateway : Sample.probed.gateway? Sample.gateway.key = some Sample.gateway := by
    decide +kernel
  have hports : Sample.gateway.FollowsNumbered Sample.probed := by
    unfold Gateway.FollowsNumbered
    decide +kernel
  have hrefused : (Translator.translate ⟨Sample.probed, .default, .clusterIp⟩
        Sample.gateway.key).outcome.map Graph.size =
      .error (.unauthorized ⟨"HTTPRoute", "shop", "probe"⟩ ⟨"Service", "vault", "safe"⟩
        "spec.rules[0].backendRefs[0]") := by
    decide +kernel
  have hnumbered : ∀ gateway, Sample.probed.gateway? Sample.gateway.key = some gateway →
      gateway.FollowsNumbered Sample.probed := by
    intro gateway hfound
    rw [hgateway, Option.some.injEq] at hfound
    exact hfound ▸ hports
  obtain ⟨hcategory, hconverts⟩ :=
    @category_of_translate ⟨Sample.probed, .default, .clusterIp⟩ _ hvalid hnumbered
  exact ⟨⟨_, map_eq_error.1 hrefused, hcategory _ (map_eq_error.1 hrefused)⟩,
    hconverts Sample.gateway hgateway⟩

end Translator

namespace Sample

/-- A Service whose one port has the number zero. -/
def portless : Service :=
  ⟨metadata "shop" "portless", some "10.0.0.4", [⟨none, 0, none⟩]⟩

/-- A route that sends traffic to this port. -/
def stray : HttpRoute :=
  ⟨metadata "shop" "stray", [edge], [],
    [⟨[], [], [⟨none, none, "portless", none, some (.number 0), none, []⟩]⟩]⟩

def strayed : Snapshot :=
  (snapshot.insert (.service portless)).insert (.httpRoute stray)

end Sample

namespace Translator

/-- A Service port of number zero is reported as a fault of the output, under either policy. -/
theorem not_category_of_strayed :
    Settings.default.validate = .ok () ∧
    ∀ policy ∈ [EndpointPolicy.clusterIp, .serviceDns "cluster.local"],
      (Translator.translate ⟨Sample.strayed, .default, policy⟩ Sample.gateway.key).outcome =
        .error (.inconsistent "ClusterLoadAssignment" "shop/portless/0"
          "failed validation: endpoints[0].port: Port must be between 1 and 65535") := by
  have hrun : ∀ policy ∈ [EndpointPolicy.clusterIp, .serviceDns "cluster.local"],
      (Translator.translate ⟨Sample.strayed, .default, policy⟩ Sample.gateway.key).outcome.map
          Graph.size =
        .error (.inconsistent "ClusterLoadAssignment" "shop/portless/0"
          "failed validation: endpoints[0].port: Port must be between 1 and 65535") := by
    decide +kernel
  refine ⟨by decide +kernel, ?_⟩
  intro policy hpolicy
  exact map_eq_error.1 (hrun policy hpolicy)

end Translator

end GatewayCompiler
