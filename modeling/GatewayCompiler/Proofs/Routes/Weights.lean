import GatewayCompiler.Proofs.FirstSeen
import GatewayCompiler.Proofs.Routes.Conversions
import Mathlib.Algebra.GroupWithZero.Nat

/-!
# Weights of backends

Backends of one cluster are merged as they are met, each sum is checked for overflow, clusters
without weight are dropped and the rest is summed again.  All of this comes to one exact sum: a rule
has an action exactly when the weights of its backends add up to a number of 32 bits, and then each
cluster with a weight is listed where it is first named, with the exact sum of its weights.
-/

namespace GatewayCompiler

/-- Names with weights.  A name may stand there several times. -/
abbrev Weights := List (String × Nat)

namespace Weights

def total (weights : Weights) : Nat :=
  (weights.map (·.2)).sum

/-- The sum of the weights that stand under a name. -/
def ofName (weights : Weights) (name : String) : Nat :=
  total (weights.filter (·.1 == name))

/-- Every name with the sum of its weights, in the order in which the names are first seen. -/
def tally (weights : Weights) : Weights :=
  (weights.map (·.1)).eraseDups.map fun name => (name, weights.ofName name)

/-- Every name whose weights add up to a positive number, with that number. -/
def shares (weights : Weights) : Weights :=
  weights.tally.filter (0 < ·.2)

/-- Adds a weight to the entry of a name, which is new at the end if it is not there. -/
def add (name : String) (weight : Nat) : Weights → Weights
  | [] => [(name, weight)]
  | entry :: rest =>
    if entry.1 = name then (name, entry.2 + weight) :: rest else entry :: add name weight rest

variable {weights : Weights} {name : String} {weight : Nat}

@[simp]
theorem total_nil : total [] = 0 :=
  rfl

@[simp]
theorem total_cons (entry : String × Nat) : total (entry :: weights) = entry.2 + weights.total :=
  List.sum_cons

theorem total_append (first second : Weights) :
    total (first ++ second) = first.total + second.total := by
  rw [total, List.map_append, List.sum_append, total, total]

@[simp]
theorem total_add : total (add name weight weights) = weights.total + weight := by
  induction weights with
  | nil => simp [add]
  | cons entry weights ih =>
      rw [add]
      split_ifs
      · rw [total_cons, total_cons, Nat.add_right_comm]
      · rw [total_cons, total_cons, ih, Nat.add_assoc]

theorem ofName_concat (other : String) :
    ofName (weights ++ [(name, weight)]) other =
      weights.ofName other + if name = other then weight else 0 := by
  rw [ofName, List.filter_append, total_append, ofName]
  by_cases h : name = other <;> simp [h]

theorem add_of_notMem (h : name ∉ weights.map (·.1)) :
    add name weight weights = weights ++ [(name, weight)] := by
  induction weights with
  | nil => rfl
  | cons entry weights ih =>
      rw [List.map_cons, List.mem_cons, not_or] at h
      rw [add, if_neg (Ne.symm h.1), ih h.2, List.cons_append]

/-- Among different names, adding changes the entry of the one name. -/
theorem add_of_mem {names : List String} (sum : String → Nat) (hnodup : names.Nodup)
    (h : name ∈ names) :
    add name weight (names.map fun other => (other, sum other)) =
      names.map fun other => (other, sum other + if name = other then weight else 0) := by
  induction names with
  | nil => cases h
  | cons first names ih =>
      obtain ⟨hfirst, hrest⟩ := List.nodup_cons.1 hnodup
      rw [List.map_cons, List.map_cons, add]
      obtain rfl | hmem := List.mem_cons.1 h
      · rw [if_pos rfl, if_pos rfl]
        congr 1
        apply List.map_congr_left
        intro other hother
        rw [if_neg (ne_of_mem_of_not_mem hother hfirst).symm, Nat.add_zero]
      · have hne : name ≠ first := ne_of_mem_of_not_mem hmem hfirst
        rw [if_neg hne.symm, if_neg hne, Nat.add_zero, ih hrest hmem]

/-- Tallying meets the entries from the front, as the merging of backends does. -/
theorem tally_concat :
    tally (weights ++ [(name, weight)]) = add name weight weights.tally := by
  rw [tally, tally, List.map_append, List.map_singleton, eraseDups_concat]
  simp only [ofName_concat]
  split_ifs with hmem
  · exact (add_of_mem weights.ofName (nodup_eraseDups _) (List.mem_eraseDups.2 hmem)).symm
  · have hkept : (weights.map (·.1)).eraseDups.map
          (fun other => (other, weights.ofName other + if name = other then weight else 0)) =
        (weights.map (·.1)).eraseDups.map fun other => (other, weights.ofName other) := by
      apply List.map_congr_left
      intro other hother
      rw [if_neg (ne_of_mem_of_not_mem (List.mem_eraseDups.1 hother) hmem).symm, Nat.add_zero]
    have hnone : weights.ofName name = 0 := by
      have hfilter : weights.filter (·.1 == name) = [] := by
        rw [List.filter_eq_nil_iff]
        intro entry hentry hsame
        exact hmem (List.mem_map.2 ⟨entry, hentry, eq_of_beq hsame⟩)
      rw [ofName, hfilter, total_nil]
    have hnew : name ∉ ((weights.map (·.1)).eraseDups.map
        fun other => (other, weights.ofName other)).map (·.1) := by
      rw [List.map_map, List.mem_map]
      rintro ⟨other, hother, rfl⟩
      exact hmem (List.mem_eraseDups.1 hother)
    rw [add_of_notMem hnew, List.map_append, hkept, List.map_singleton, if_pos rfl, hnone,
      Nat.zero_add]

/-- Merging entries from the front tallies them. -/
theorem foldl_add (weights : Weights) :
    weights.foldl (fun merged entry => add entry.1 entry.2 merged) [] = weights.tally := by
  induction weights using List.reverseRecOn with
  | nil => rfl
  | append_singleton weights entry ih => rw [List.foldl_concat, ih, tally_concat]

theorem total_tally (weights : Weights) : weights.tally.total = weights.total := by
  induction weights using List.reverseRecOn with
  | nil => rfl
  | append_singleton weights entry ih =>
      rw [tally_concat, total_add, ih, total_append, total_cons, total_nil, Nat.add_zero]

/-- Entries without weight do not count. -/
theorem total_filter (weights : Weights) : total (weights.filter (0 < ·.2)) = weights.total := by
  induction weights with
  | nil => rfl
  | cons entry weights ih =>
      by_cases h : 0 < entry.2
      · rw [List.filter_cons_of_pos (by simpa using h), total_cons, total_cons, ih]
      · rw [List.filter_cons_of_neg (by simpa using h), total_cons, ih, Nat.eq_zero_of_not_pos h,
          Nat.zero_add]

theorem total_shares (weights : Weights) : weights.shares.total = weights.total :=
  (total_filter weights.tally).trans (total_tally weights)

end Weights

/-- The entry of a cluster, with its weight as a number. -/
def WeightedPlan.entry (cluster : WeightedPlan) : String × Nat :=
  (cluster.name, cluster.weight.toNat)

theorem addWeights?_eq_some_iff {a b sum : UInt32} :
    addWeights? a b = some sum ↔ a.toNat + b.toNat = sum.toNat := by
  have hsize : sum.toNat < UInt32.size := sum.toNat_lt
  rw [addWeights?, Option.ite_none_right_eq_some]
  constructor
  · rintro ⟨hlt, ⟨⟩⟩
    rw [UInt32.toNat_add, Nat.mod_eq_of_lt hlt]
  · intro h
    have hlt : a.toNat + b.toNat < UInt32.size := h ▸ hsize
    refine ⟨hlt, congrArg some (UInt32.toNat_inj.1 ?_)⟩
    rw [UInt32.toNat_add, Nat.mod_eq_of_lt hlt, h]

theorem exists_addWeights? {a b : UInt32} (h : a.toNat + b.toNat < UInt32.size) :
    ∃ sum, addWeights? a b = some sum :=
  ⟨a + b, if_pos h⟩

section AddWeight

variable {name : String} {weight : UInt32} {clusters out : List WeightedPlan}

theorem entry_addWeight? (h : addWeight? name weight clusters = some out) :
    out.map (·.entry) = Weights.add name weight.toNat (clusters.map (·.entry)) := by
  induction clusters generalizing out with
  | nil =>
      cases h
      rfl
  | cons cluster clusters ih =>
      rw [addWeight?] at h
      rw [List.map_cons, Weights.add, WeightedPlan.entry]
      split_ifs at h with hsame
      · obtain ⟨sum, hsum, rfl⟩ := Option.map_eq_some_iff.1 h
        rw [if_pos hsame, addWeights?_eq_some_iff.1 hsum]
        rfl
      · obtain ⟨rest, hrest, rfl⟩ := Option.map_eq_some_iff.1 h
        rw [if_neg hsame, List.map_cons, ih hrest]
        rfl

/-- No sum overflows before the sum of all weights does. -/
theorem exists_addWeight?
    (h : Weights.total (clusters.map (·.entry)) + weight.toNat < UInt32.size) :
    ∃ out, addWeight? name weight clusters = some out := by
  induction clusters with
  | nil => exact ⟨_, rfl⟩
  | cons cluster clusters ih =>
      rw [List.map_cons, Weights.total_cons, WeightedPlan.entry] at h
      rw [addWeight?]
      split_ifs
      · obtain ⟨sum, hsum⟩ := exists_addWeights? (a := cluster.weight) (b := weight) (by omega)
        rw [hsum]
        exact ⟨_, rfl⟩
      · obtain ⟨out, hout⟩ := ih (by omega)
        rw [hout]
        exact ⟨_, rfl⟩

end AddWeight

/-- Summing clusters one after another gives their total, and there is no sum exactly when that does
not fit. -/
theorem foldlM_addWeights?_eq_some_iff {clusters : List WeightedPlan} {start sum : UInt32} :
    clusters.foldlM (fun total cluster => addWeights? total cluster.weight) start = some sum ↔
      start.toNat + Weights.total (clusters.map (·.entry)) = sum.toNat := by
  induction clusters generalizing start with
  | nil => simp [UInt32.toNat_inj]
  | cons cluster clusters ih =>
      rw [List.foldlM_cons, Option.bind_eq_bind, Option.bind_eq_some_iff, List.map_cons,
        Weights.total_cons, WeightedPlan.entry]
      simp only [addWeights?_eq_some_iff, ih]
      constructor
      · rintro ⟨next, hnext, hsum⟩
        omega
      · intro h
        have hsize : sum.toNat < UInt32.size := sum.toNat_lt
        obtain ⟨next, hnext⟩ := exists_addWeights? (a := start) (b := cluster.weight) (by omega)
        rw [addWeights?_eq_some_iff] at hnext
        exact ⟨next, hnext, by omega⟩

theorem totalWeight?_eq_some_iff {clusters : List WeightedPlan} {sum : UInt32} :
    totalWeight? clusters = some sum ↔ Weights.total (clusters.map (·.entry)) = sum.toNat := by
  rw [totalWeight?, foldlM_addWeights?_eq_some_iff, UInt32.toNat_zero, Nat.zero_add]

theorem exists_totalWeight? {clusters : List WeightedPlan}
    (h : Weights.total (clusters.map (·.entry)) < UInt32.size) :
    ∃ sum, totalWeight? clusters = some sum :=
  ⟨UInt32.ofNat _, totalWeight?_eq_some_iff.2 (UInt32.toNat_ofNat_of_lt' h).symm⟩

/-- The weight that a backend states; one that states none weighs one. -/
def BackendRef.statedWeight (backend : BackendRef) : Nat :=
  (backend.weight.map (·.toNat)).getD 1

theorem BackendRef.toNat_weightOrOne (backend : BackendRef) :
    backend.weightOrOne.toNat = backend.statedWeight := by
  rw [weightOrOne, statedWeight]
  cases backend.weight <;> rfl

/-- The weights that backends give to the clusters of these names. -/
def Weights.ofBackends (names : List String) (backends : List BackendRef) : Weights :=
  names.zip (backends.map (·.statedWeight))

theorem Weights.ofBackends_cons (name : String) (names : List String) (backend : BackendRef)
    (backends : List BackendRef) :
    ofBackends (name :: names) (backend :: backends) =
      (name, backend.weightOrOne.toNat) :: ofBackends names backends := by
  rw [BackendRef.toNat_weightOrOne]
  rfl

/-- An action answers with 500 when there is no weight, and shares the traffic out else. -/
def ActionPlan.SharesOut (weights : Weights) : ActionPlan → Prop
  | .forward clusters total _ =>
    0 < weights.total ∧ clusters.map (·.entry) = weights.shares ∧
      total.map (·.toNat) = some weights.total
  | .respond status body => weights.total = 0 ∧ status = 500 ∧ body = none
  | .redirect _ => False

/-- The same of the action that a proxy is given. -/
def Envoy.RouteAction.SharesOut (weights : Weights) : Envoy.RouteAction → Prop
  | .forward action =>
    0 < weights.total ∧ ∃ clusters total, action.cluster = some (.weighted clusters total) ∧
      clusters.map (fun cluster => (cluster.name, cluster.weight.map (·.toNat))) =
        weights.shares.map (fun share => (share.1, some share.2)) ∧
      total.map (·.toNat) = some weights.total
  | .respond response => weights.total = 0 ∧ response.status = 500 ∧ response.body = none
  | .redirect _ => False

namespace ActionPlan.SharesOut

variable {weights : Weights} {plan : ActionPlan}

theorem withReplacement (h : plan.SharesOut weights) (replacement : PathReplacement) :
    (plan.withReplacement replacement).SharesOut weights := by
  cases plan <;> exact h

/-- The message keeps the clusters, their order, their weights and the total. -/
theorem exists_toAction (h : plan.SharesOut weights) (name : String) :
    ∃ action, plan.toAction name = .ok action ∧ action.SharesOut weights := by
  cases plan with
  | forward clusters total rewrite =>
      obtain ⟨hpositive, hclusters, htotal⟩ := h
      have hne : clusters ≠ [] := by
        rintro rfl
        rw [← Weights.total_shares, ← hclusters] at hpositive
        exact absurd hpositive (Nat.lt_irrefl 0)
      rw [toAction, if_neg (mt List.isEmpty_iff.1 hne)]
      refine ⟨_, rfl, hpositive, _, total, rfl, ?_, htotal⟩
      rw [← hclusters, List.map_map, List.map_map]
      rfl
  | redirect plan => exact h.elim
  | respond status body =>
      obtain ⟨hzero, hstatus, hbody⟩ := h
      exact ⟨_, rfl, hzero, hstatus, by rw [hbody]; rfl⟩

end ActionPlan.SharesOut

theorem RouteMatch.sharesOut_action {weights : Weights} {m : RouteMatch}
    {place : String} {action : RuleAction} {plan : ActionPlan}
    (hplan : m.action route place action = .ok plan) (h : action.action.SharesOut weights) :
    plan.SharesOut weights := by
  unfold RouteMatch.action at hplan
  split at hplan
  · cases hplan
    exact h
  · split at hplan
    · cases hplan
      exact h.withReplacement _
    · cases hplan

namespace RouteRule

variable {snapshot : Snapshot} {rules : ClusterRules} {route : ObjectRef} {field : String}
  {built built' : BackendClusters} {names : List String}

/-- The names of the clusters of backends, each of which is built if need be. -/
def nameClusters (snapshot : Snapshot) (rules : ClusterRules) (route : ObjectRef) (field : String)
    (index : Nat) (backends : List BackendRef) : Building (List String) :=
  (backends.zipIdx index).mapM fun (entry : BackendRef × Nat) =>
    entry.1.cluster snapshot rules route (backendField field entry.2)

theorem nameClusters_cons_eq_ok_iff {backend : BackendRef} {backends : List BackendRef}
    {index : Nat} :
    (nameClusters snapshot rules route field index (backend :: backends)).run built =
        .ok (names, built') ↔
      ∃ name rest next,
        (backend.cluster snapshot rules route (backendField field index)).run built =
          .ok (name, next) ∧
        (nameClusters snapshot rules route field (index + 1) backends).run next =
          .ok (rest, built') ∧ names = name :: rest := by
  rw [nameClusters, List.zipIdx_cons, List.mapM_cons]
  simp only [StateT.run_bind, bind_eq_ok, Prod.exists, StateT.run_pure, pure_eq_ok, Prod.mk.injEq]
  constructor
  · rintro ⟨name, next, hname, rest, _, hrest, rfl, rfl⟩
    exact ⟨name, rest, next, hname, hrest, rfl⟩
  · rintro ⟨name, rest, next, hname, hrest, rfl⟩
    exact ⟨name, next, hname, rest, built', hrest, rfl, rfl⟩

/-- A backend whose cluster has a name is merged with those before it. -/
theorem run_weigh_cons {backend : BackendRef} {index : Nat} {name : String} {next : BackendClusters}
    (hname : (backend.cluster snapshot rules route (backendField field index)).run built =
      .ok (name, next)) (clusters : List WeightedPlan) (backends : List BackendRef) :
    (weigh snapshot rules route field index clusters (backend :: backends)).run built =
      backend.weighIn route (backendField field index) name clusters >>= fun merged =>
        (weigh snapshot rules route field (index + 1) merged backends).run next := by
  rw [weigh, StateT.run_bind, hname, ok_bind, StateT.run_bind]
  cases backend.weighIn route (backendField field index) name clusters <;> rfl

/-- Backends whose clusters have names are merged by name, unless the sum of all weights does not
fit. -/
theorem run_weigh_of_names {backends : List BackendRef} {index : Nat}
    (clusters : List WeightedPlan)
    (hnames : (nameClusters snapshot rules route field index backends).run built =
      .ok (names, built')) :
    (∃ out, (weigh snapshot rules route field index clusters backends).run built =
        .ok (out, built') ∧
      out.map (·.entry) = (Weights.ofBackends names backends).foldl
        (fun merged entry => Weights.add entry.1 entry.2 merged) (clusters.map (·.entry))) ∨
    ∃ fault, (weigh snapshot rules route field index clusters backends).run built = .error fault ∧
      fault.category = "invalid-input" ∧
      UInt32.size ≤
        Weights.total (clusters.map (·.entry)) + (Weights.ofBackends names backends).total := by
  induction backends generalizing index clusters built names with
  | nil =>
      cases hnames
      exact .inl ⟨clusters, rfl, rfl⟩
  | cons backend backends ih =>
      obtain ⟨name, rest, next, hname, hrest, rfl⟩ := nameClusters_cons_eq_ok_iff.1 hnames
      rw [run_weigh_cons hname, Weights.ofBackends_cons, Weights.total_cons, List.foldl_cons,
        BackendRef.weighIn]
      cases hadd : addWeight? name backend.weightOrOne clusters with
      | none =>
          refine .inr ⟨_, rfl, rfl, ?_⟩
          by_contra hlt
          obtain ⟨out, hout⟩ : ∃ out, addWeight? name backend.weightOrOne clusters = some out :=
            exists_addWeight? (by omega)
          rw [hadd] at hout
          cases hout
      | some merged =>
          have hmerged := entry_addWeight? hadd
          rw [ok_bind, ← hmerged]
          refine (ih merged hrest).imp_right ?_
          rintro ⟨fault, hfault, hcategory, hsize⟩
          rw [hmerged, Weights.total_add, Nat.add_assoc] at hsize
          exact ⟨fault, hfault, hcategory, hsize⟩

/-- Merged clusters are summed up unless their sum does not fit. -/
theorem forward_of_tally {weights : Weights} {clusters : List WeightedPlan}
    (h : clusters.map (·.entry) = weights.tally) (route : ObjectRef) (field : String)
    (rewrite : Option RewritePlan) :
    (∃ plan, forward route field clusters rewrite = .ok plan ∧ plan.SharesOut weights ∧
      weights.total < UInt32.size) ∨
    ∃ fault, forward route field clusters rewrite = .error fault ∧
      fault.category = "invalid-input" ∧ UInt32.size ≤ weights.total := by
  have hshares : (clusters.filter (·.weight > 0)).map (·.entry) = weights.shares := by
    rw [Weights.shares, ← h, List.filter_map]
    rfl
  have htotal : Weights.total ((clusters.filter (·.weight > 0)).map (·.entry)) = weights.total := by
    rw [hshares, Weights.total_shares]
  simp only [forward]
  cases hsum : totalWeight? (clusters.filter (·.weight > 0)) with
  | none =>
      refine .inr ⟨_, rfl, rfl, ?_⟩
      by_contra hlt
      obtain ⟨sum, hsome⟩ := exists_totalWeight? (htotal ▸ Nat.not_le.1 hlt)
      rw [hsum] at hsome
      cases hsome
  | some sum =>
      rw [totalWeight?_eq_some_iff, htotal] at hsum
      refine .inl ⟨_, rfl, ?_, hsum ▸ sum.toNat_lt⟩
      split_ifs with hzero
      · refine ⟨?_, rfl, rfl⟩
        rw [hsum, hzero]
        rfl
      · refine ⟨?_, hshares, congrArg some hsum.symm⟩
        rw [hsum]
        exact Nat.pos_of_ne_zero fun h => hzero (UInt32.toNat_inj.1 h)

/-- What becomes of weights in an action of a rule and in those planned for its matches. -/
structure KeepsWeights (weights : Weights) (route : ObjectRef)
    (outcome : Except Fault (RuleAction × BackendClusters)) : Prop where
  succeeds_iff : (∃ result, outcome = .ok result) ↔ weights.total ≤ 2 ^ 32 - 1
  category : ∀ fault, outcome = .error fault → fault.category = "invalid-input"
  sharesOut : ∀ action built, outcome = .ok (action, built) → ∀ plan : ActionPlan,
    (plan = action.action ∨ ∃ (m : RouteMatch) (place : String),
      m.action route place action = .ok plan) →
    plan.SharesOut weights ∧
      ∀ name, ∃ converted, plan.toAction name = .ok converted ∧ converted.SharesOut weights

theorem run_backendAction {rule : RouteRule} {rewrite : Option UrlRewrite}
    {change : Option PathChange} (hchange : rewriteChange route field rewrite = .ok change) :
    (rule.backendAction snapshot rules route field rewrite).run built =
      (weigh snapshot rules route field 0 [] rule.backendRefs).run built >>= fun result =>
        (forwardAction route field rewrite change result.1).map (·, result.2) := by
  rw [backendAction, hchange, StateT.run_bind]
  change (weigh snapshot rules route field 0 [] rule.backendRefs >>= fun clusters =>
    liftM (forwardAction route field rewrite change clusters)).run built = _
  rw [StateT.run_bind]
  rfl

/-- Forwarding shares out what was tallied, or there is too much of it. -/
theorem forwardAction_of_tally {weights : Weights} {clusters : List WeightedPlan}
    (h : clusters.map (·.entry) = weights.tally) (route : ObjectRef) (field : String)
    (rewrite : Option UrlRewrite) (change : Option PathChange) :
    (∃ action, forwardAction route field rewrite change clusters = .ok action ∧
      action.action.SharesOut weights ∧ weights.total < UInt32.size) ∨
    ∃ fault, forwardAction route field rewrite change clusters = .error fault ∧
      fault.category = "invalid-input" ∧ UInt32.size ≤ weights.total := by
  rw [forwardAction]
  obtain ⟨plan, hplan, hshares, hsize⟩ | ⟨fault, hfault, hcategory, hsize⟩ :=
    forward_of_tally h route field
      (rewrite.map fun rewrite => ⟨rewrite.hostname, none, change.bind PathChange.whole?⟩)
  · exact .inl ⟨⟨plan, _⟩, by rw [hplan]; rfl, hshares, hsize⟩
  · exact .inr ⟨fault, by rw [hfault]; rfl, hcategory, hsize⟩

theorem KeepsWeights.of_error {weights : Weights} {fault : Fault}
    (hcategory : fault.category = "invalid-input") (hsize : UInt32.size ≤ weights.total) :
    KeepsWeights weights route (.error fault) where
  succeeds_iff := by
    constructor
    · rintro ⟨result, hresult⟩
      cases hresult
    · intro h
      have : UInt32.size = 2 ^ 32 := rfl
      omega
  category := by
    rintro _ ⟨⟩
    exact hcategory
  sharesOut := by
    rintro action built ⟨⟩

theorem KeepsWeights.of_ok {weights : Weights} {action : RuleAction}
    (hshares : action.action.SharesOut weights) (hsize : weights.total < UInt32.size)
    (built : BackendClusters) : KeepsWeights weights route (.ok (action, built)) where
  succeeds_iff := iff_of_true ⟨_, rfl⟩ (Nat.le_sub_one_of_lt hsize)
  category := by
    rintro fault ⟨⟩
  sharesOut := by
    rintro _ _ ⟨⟩ plan hplan
    have hplanned : plan.SharesOut weights := by
      obtain rfl | ⟨m, place, hmatch⟩ := hplan
      · exact hshares
      · exact RouteMatch.sharesOut_action hmatch hshares
    exact ⟨hplanned, hplanned.exists_toAction⟩

/-- The action of a rule whose backends all have a cluster keeps their weights exactly. -/
theorem keepsWeights_backendAction {rule : RouteRule} {rewrite : Option UrlRewrite}
    {change : Option PathChange} (hchange : rewriteChange route field rewrite = .ok change)
    (hnames : (nameClusters snapshot rules route field 0 rule.backendRefs).run built =
      .ok (names, built')) :
    KeepsWeights (Weights.ofBackends names rule.backendRefs) route
      ((rule.backendAction snapshot rules route field rewrite).run built) := by
  rw [run_backendAction hchange]
  obtain ⟨out, hout, htally⟩ | ⟨fault, hfault, hcategory, hsize⟩ :=
    run_weigh_of_names [] hnames
  · rw [List.map_nil, Weights.foldl_add] at htally
    rw [hout, ok_bind]
    obtain ⟨action, haction, hshares, hsize⟩ | ⟨fault, hfault, hcategory, hsize⟩ :=
      forwardAction_of_tally htally route field rewrite change
    · rw [haction]
      exact .of_ok hshares hsize built'
    · rw [hfault]
      exact .of_error hcategory hsize
  · rw [List.map_nil, Weights.total_nil, Nat.zero_add] at hsize
    rw [hfault]
    exact .of_error hcategory hsize

end RouteRule

/-- A rule that names one Service twice and another without weight. -/
def Sample.spread : RouteRule :=
  ⟨[], [], [backend none "web" none, backend (some "data") "orders" (some 0),
    backend none "web" (some 4)]⟩

theorem RouteRule.keepsWeights_of_spread :
    ∃ built, (nameClusters Sample.snapshot Sample.rules Sample.cart.ref "spec.rules[0]" 0
        Sample.spread.backendRefs).run ∅ =
          .ok (["shop/web/8080", "data/orders/8080", "shop/web/8080"], built) ∧
      rewriteChange Sample.cart.ref "spec.rules[0]" none = .ok none ∧
      KeepsWeights [("shop/web/8080", 1), ("data/orders/8080", 0), ("shop/web/8080", 4)]
        Sample.cart.ref
        ((Sample.spread.backendAction Sample.snapshot Sample.rules Sample.cart.ref
          "spec.rules[0]" none).run ∅) := by
  have hrun : ((nameClusters Sample.snapshot Sample.rules Sample.cart.ref "spec.rules[0]" 0
      Sample.spread.backendRefs).run ∅).map (·.1) =
        .ok ["shop/web/8080", "data/orders/8080", "shop/web/8080"] := by
    decide +kernel
  obtain ⟨⟨names, built⟩, hnames, rfl⟩ := map_eq_ok.1 hrun
  exact ⟨built, hnames, rfl, keepsWeights_backendAction rfl hnames⟩

end GatewayCompiler
