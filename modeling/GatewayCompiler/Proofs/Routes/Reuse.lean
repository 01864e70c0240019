import GatewayCompiler.Proofs.Routes.Clusters

/-!
# Reuse of clusters

The listeners of a translation are planned one after another on the same clusters, so one listener
finds the clusters of another at hand and builds only what is missing.  That is not to be seen in
its route configuration: a listener that can be planned on its own is planned alike after any
others, and the clusters that it would have built alone follow those at hand as far as these lack
them.
-/

namespace GatewayCompiler

namespace Roster

variable {α : Type} {nameOf : α → String} {before fresh after : Roster α nameOf} {name : String}
  {item : α}

/-- A roster followed by the items of another whose names it does not have. -/
def IsJoin (before fresh after : Roster α nameOf) : Prop :=
  after.items = before.items ++ fresh.items.filter (nameOf · ∉ before.names)

theorem isJoin_empty (before : Roster α nameOf) : IsJoin before ∅ before :=
  (List.append_nil _).symm

theorem IsJoin.names_eq (h : IsJoin before fresh after) :
    after.names = before.names ++ fresh.names.filter (· ∉ before.names) := by
  rw [names, h, List.map_append, names, names, List.filter_map]
  rfl

theorem IsJoin.mem_names_iff (h : IsJoin before fresh after) :
    name ∈ after.names ↔ name ∈ before.names ∨ name ∈ fresh.names := by
  rw [h.names_eq, List.mem_append, List.mem_filter, decide_eq_true_iff]
  by_cases hmem : name ∈ before.names <;> simp [hmem]

/-- An item that the first roster has by name is not seen in the join. -/
theorem IsJoin.add_of_mem (h : IsJoin before fresh after) (hmem : nameOf item ∈ before.names)
    (hnew : nameOf item ∉ fresh.names) : IsJoin before (fresh.add item) after := by
  rw [IsJoin, items_add_of_notMem hnew, List.filter_append,
    List.filter_cons_of_neg (by simpa using hmem), List.filter_nil, List.append_nil]
  exact h

theorem IsJoin.add_of_notMem (h : IsJoin before fresh after) (hmem : nameOf item ∉ before.names)
    (hnew : nameOf item ∉ fresh.names) : IsJoin before (fresh.add item) (after.add item) := by
  have hafter : nameOf item ∉ after.names := by
    rw [h.mem_names_iff]
    exact not_or.2 ⟨hmem, hnew⟩
  rw [IsJoin, items_add_of_notMem hnew, items_add_of_notMem hafter, List.filter_append,
    List.filter_cons_of_pos (by simpa using hmem), List.filter_nil, ← List.append_assoc]
  congr 1

end Roster

namespace ClusterRules

variable {rules : ClusterRules} {before fresh fresh' after : BackendClusters}

/-- A Service port that can be registered alone can be registered beside the clusters at hand. -/
theorem exists_join_of_register {target : BackendTarget} (hjoin : before.IsJoin fresh after)
    (h : rules.register fresh target = .ok fresh') :
    ∃ after', rules.register after target = .ok after' ∧ before.IsJoin fresh' after' := by
  obtain ⟨hmem, rfl⟩ | ⟨hnew, backend, hbuild, rfl⟩ := register_eq_ok_iff.1 h
  · have hafter : target.clusterName ∈ after.names := hjoin.mem_names_iff.2 (.inr hmem)
    exact ⟨after, register_eq_ok_iff.2 (.inl ⟨hafter, rfl⟩), hjoin⟩
  · have hname := (isNamed_of_build hbuild).cluster
    by_cases hbefore : target.clusterName ∈ before.names
    · have hafter : target.clusterName ∈ after.names := hjoin.mem_names_iff.2 (.inl hbefore)
      rw [← hname] at hbefore hnew
      exact ⟨after, register_eq_ok_iff.2 (.inl ⟨hafter, rfl⟩), hjoin.add_of_mem hbefore hnew⟩
    · have hafter : target.clusterName ∉ after.names := by
        rw [hjoin.mem_names_iff]
        exact not_or.2 ⟨hbefore, hnew⟩
      rw [← hname] at hbefore hnew
      exact ⟨after.add backend, register_eq_ok_iff.2 (.inr ⟨hafter, backend, hbuild, rfl⟩),
        hjoin.add_of_notMem hbefore hnew⟩

theorem exists_join_of_registerAll {targets : List BackendTarget}
    (hjoin : before.IsJoin fresh after) (h : rules.registerAll fresh targets = .ok fresh') :
    ∃ after', rules.registerAll after targets = .ok after' ∧ before.IsJoin fresh' after' := by
  induction targets generalizing fresh after with
  | nil =>
      rw [registerAll, List.foldlM_nil, pure_eq_ok] at h
      subst h
      exact ⟨after, rfl, hjoin⟩
  | cons target targets ih =>
      rw [registerAll, List.foldlM_cons, bind_eq_ok] at h
      obtain ⟨next, hfirst, hrest⟩ := h
      obtain ⟨middle, hmiddle, hjoin⟩ := exists_join_of_register hjoin hfirst
      obtain ⟨after', hafter, hjoin⟩ := ih hjoin hrest
      refine ⟨after', ?_, hjoin⟩
      rw [registerAll, List.foldlM_cons, bind_eq_ok]
      exact ⟨middle, hmiddle, hafter⟩

end ClusterRules

/-- A listener that is planned on its own gets the same route configuration whatever clusters are
at hand, be they left by listeners that were planned before it or by ones that failed; the clusters
that it builds alone follow them, in order, save those whose names are there. -/
theorem Listener.run_routeConfiguration_of_fresh {listener : Listener} {snapshot : Snapshot}
    {rules : ClusterRules} {gateway : ObjectKey} {plan : RouteConfigurationPlan}
    {fresh : BackendClusters}
    (h : (listener.routeConfiguration snapshot rules gateway).run ∅ = .ok (plan, fresh))
    (before : BackendClusters) :
    ∃ after, (listener.routeConfiguration snapshot rules gateway).run before = .ok (plan, after) ∧
      after.names = before.names ++ fresh.names.filter (· ∉ before.names) ∧
      before.IsJoin fresh after := by
  obtain ⟨outlines, houtlines, hplan, hall⟩ := run_routeConfiguration_eq_ok_iff.1 h
  obtain ⟨after, hafter, hjoin⟩ :=
    ClusterRules.exists_join_of_registerAll before.isJoin_empty hall
  exact ⟨after, run_routeConfiguration_eq_ok_iff.2 ⟨outlines, houtlines, hplan, hafter⟩,
    hjoin.names_eq, hjoin⟩

/-- A listener that only routes without hosts share a host with. -/
def Sample.elsewhere : Listener :=
  listener "elsewhere" 8080 "HTTP" (some "example.org") none

theorem Listener.run_routeConfiguration_after_elsewhere :
    ∃ first plan before fresh after,
      (Sample.elsewhere.routeConfiguration Sample.snapshot Sample.rules Sample.gateway.key).run ∅ =
        .ok (first, before) ∧
      (Sample.https.routeConfiguration Sample.snapshot Sample.rules Sample.gateway.key).run ∅ =
        .ok (plan, fresh) ∧
      (Sample.https.routeConfiguration Sample.snapshot Sample.rules Sample.gateway.key).run before =
        .ok (plan, after) ∧
      before.names = ["blog/web/8080"] ∧
      fresh.names.filter (· ∉ before.names) = ["shop/web/8080", "data/orders/8080"] ∧
      after.names = ["blog/web/8080", "shop/web/8080", "data/orders/8080"] := by
  have hbefore : ((Sample.elsewhere.routeConfiguration Sample.snapshot Sample.rules
      Sample.gateway.key).run ∅).map (·.2.names) = .ok ["blog/web/8080"] := by
    decide +kernel
  have hfresh : ((Sample.https.routeConfiguration Sample.snapshot Sample.rules
      Sample.gateway.key).run ∅).map (·.2.names) =
        .ok ["blog/web/8080", "shop/web/8080", "data/orders/8080"] := by
    decide +kernel
  obtain ⟨⟨first, before⟩, hfirst, hnames⟩ := map_eq_ok.1 hbefore
  obtain ⟨⟨plan, fresh⟩, hplan, hbuilt⟩ := map_eq_ok.1 hfresh
  obtain ⟨after, hafter, hjoined, -⟩ := run_routeConfiguration_of_fresh hplan before
  have hmissing :
      fresh.names.filter (· ∉ before.names) = ["shop/web/8080", "data/orders/8080"] := by
    simp only [hnames, hbuilt]
    decide +kernel
  refine ⟨first, plan, before, fresh, after, hfirst, hplan, hafter, hnames, hmissing, ?_⟩
  rw [hjoined, hmissing]
  simp only [hnames, List.singleton_append]

end GatewayCompiler
