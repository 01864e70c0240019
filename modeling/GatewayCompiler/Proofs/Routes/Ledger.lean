import GatewayCompiler.Proofs.Routes.Clusters

/-!
# The ledger of clusters

Clusters are asked for one after another, and some calls fail.  A roster holds its list and its table
as one and is given up by a step that fails.  A ledger holds them apart, changes one and then the
other, and keeps what a call has changed before it failed.  Nothing comes of that: every call does
the same to a ledger as to the roster, so the list and the table always fit together.
-/

namespace GatewayCompiler

/-- The clusters in the order in which they were built and, apart from them, the place of each
name. -/
@[ext]
structure ClusterLedger where
  clusters : List BackendCluster
  places : Table String Nat

/-- Steps that work on a ledger.  What a step has changed stays changed when a later one fails. -/
abbrev Keeping := ExceptT Fault (StateM ClusterLedger)

namespace ClusterLedger

instance : EmptyCollection ClusterLedger := ⟨⟨[], ∅⟩⟩

/-- Notes the place of the cluster that is listed next. -/
def note (ledger : ClusterLedger) (name : String) : ClusterLedger :=
  { ledger with places := ledger.places.insert name ledger.clusters.length }

def append (ledger : ClusterLedger) (backend : BackendCluster) : ClusterLedger :=
  { ledger with clusters := ledger.clusters ++ [backend] }

def names (ledger : ClusterLedger) : List String :=
  ledger.clusters.map (·.cluster.name)

/-- A ledger whose list and table fit together. -/
structure IsInOrder (ledger : ClusterLedger) : Prop where
  distinct : ledger.names.Nodup
  places_iff : ∀ name place, ledger.places.get? name = some place ↔
    ledger.names[place]? = some name
  named : ∀ backend ∈ ledger.clusters, backend.assignment.clusterName = backend.cluster.name

/-- What a call with this answer may make of a ledger. -/
structure Becomes (before after : ClusterLedger) (answer : Except Fault String) : Prop where
  order : after.IsInOrder
  grown : after.clusters = before.clusters ∨
    ∃ backend, after.clusters = before.clusters ++ [backend]
  failed : ∀ fault, answer = .error fault → after = before
  answered : ∀ name, answer = .ok name → after.places.contains name = true

variable {before after : ClusterLedger}

theorem Becomes.of_ok {name : String} (horder : after.IsInOrder)
    (hgrown : after.clusters = before.clusters ∨
      ∃ backend, after.clusters = before.clusters ++ [backend])
    (hname : after.places.contains name = true) : before.Becomes after (.ok name) where
  order := horder
  grown := hgrown
  failed := by
    intro fault h
    cases h
  answered := by
    rintro _ ⟨⟩
    exact hname

theorem Becomes.of_error (horder : before.IsInOrder) (fault : Fault) :
    before.Becomes before (.error fault) where
  order := horder
  grown := .inl rfl
  failed := fun _ _ => rfl
  answered := by
    intro name h
    cases h

end ClusterLedger

/-- The name of the cluster of a Service port, which is built and entered if there is none of that
name. -/
def ClusterRules.keep (rules : ClusterRules) (service : Service) (port : ServicePort) :
    Keeping String := do
  let name := BackendTarget.clusterName ⟨service, port⟩
  if (← get).places.contains name then
    return name
  let backend ← rules.build name service port
  modify (·.note name)
  modify (·.append backend)
  return name

/-- What a collection of clusters is asked for. -/
inductive ClusterCall where
  | servicePort (service : Service) (port : ServicePort)
  | backendRef (snapshot : Snapshot) (backend : BackendRef) (route : ObjectRef) (field : String)

namespace ClusterCall

/-- The call as a translation makes it. -/
def build (rules : ClusterRules) : ClusterCall → Building String
  | .servicePort service port => rules.clusterFor service port
  | .backendRef snapshot backend route field => backend.cluster snapshot rules route field

def keep (rules : ClusterRules) : ClusterCall → Keeping String
  | .servicePort service port => rules.keep service port
  | .backendRef snapshot backend route field => do
    let target ← backend.resolve snapshot route field
    rules.keep target.service target.port

/-- What the call answers, and the ledger after it. -/
def perform (call : ClusterCall) (rules : ClusterRules) (ledger : ClusterLedger) :
    Except Fault String × ClusterLedger :=
  (call.keep rules).run.run ledger

end ClusterCall

/-- The ledger after calls, whether or not they failed. -/
def ClusterRules.ledgerAfter (rules : ClusterRules) (calls : List ClusterCall) : ClusterLedger :=
  calls.foldl (fun ledger call => (call.perform rules ledger).2) ∅

namespace ClusterLedger

/-- The list and the table of a roster. -/
def ofRoster (built : BackendClusters) : ClusterLedger :=
  ⟨built.items, built.places⟩

/-- How a step on a roster ends: with the roster that it leaves, or with the one before it. -/
def settle (built : BackendClusters) :
    Except Fault (String × BackendClusters) → Except Fault String × ClusterLedger
  | .ok (name, next) => (.ok name, ofRoster next)
  | .error fault => (.error fault, ofRoster built)

variable {rules : ClusterRules} {built : BackendClusters}

theorem isInOrder_ofRoster (h : ∀ backend ∈ built.items, backend.IsNamed backend.cluster.name) :
    (ofRoster built).IsInOrder where
  distinct := built.distinct
  places_iff := built.indexed
  named := by
    intro backend hbackend
    exact (h backend hbackend).assignment

/-- A cluster of a new name is entered into the table and the list. -/
theorem ofRoster_add {name : String} {backend : BackendCluster}
    (hname : backend.cluster.name = name) (hnew : built.contains name = false) :
    ofRoster (built.add backend) = ((ofRoster built).note name).append backend := by
  subst hname
  have hnot : ¬ built.contains backend.cluster.name = true := by
    rw [hnew]
    exact Bool.false_ne_true
  rw [Roster.add, Roster.offer, dif_neg hnot]
  rfl

/-- Asked for the cluster of a Service port, a ledger does what its roster does. -/
theorem run_keep (rules : ClusterRules) (target : BackendTarget) (built : BackendClusters) :
    (rules.keep target.service target.port).run.run (ofRoster built) =
      settle built ((rules.clusterFor target.service target.port).run built) := by
  let name := target.clusterName
  have hrun : (rules.keep target.service target.port).run.run (ofRoster built) =
      ((if built.contains name then pure name else do
        let backend ← rules.build name target.service target.port
        modify (·.note name)
        modify (·.append backend)
        return name : Keeping String).run.run (ofRoster built)) := rfl
  rw [hrun, ClusterRules.run_clusterFor, ClusterRules.register]
  cases hcontains : built.contains name with
  | true =>
      rw [if_pos rfl, if_pos rfl]
      rfl
  | false =>
      rw [if_neg Bool.false_ne_true, if_neg Bool.false_ne_true]
      cases hbuild : rules.build name target.service target.port with
      | error fault => rfl
      | ok backend =>
          have hname := (ClusterRules.isNamed_of_build hbuild).cluster
          show (Except.ok name, ((ofRoster built).note name).append backend) =
            (Except.ok name, ofRoster (built.add backend))
          rw [ofRoster_add hname hcontains]

/-- A roster on which every cluster has one name with its assignment. -/
def IsNamed (built : BackendClusters) : Prop :=
  ∀ backend ∈ built.items, backend.IsNamed backend.cluster.name

theorem becomes_of_register {target : BackendTarget} {next : BackendClusters}
    (hnamed : IsNamed built) (h : rules.register built target = .ok next) :
    IsNamed next ∧ (ofRoster built).Becomes (ofRoster next) (.ok target.clusterName) := by
  have hfound : next.contains target.clusterName = true :=
    Roster.contains_iff.2 ((ClusterRules.mem_names_register h).2 (.inr rfl))
  obtain ⟨-, rfl⟩ | ⟨hnew, backend, hbuild, rfl⟩ := ClusterRules.register_eq_ok_iff.1 h
  · exact ⟨hnamed, .of_ok (isInOrder_ofRoster hnamed) (.inl rfl) hfound⟩
  · have hbuilt := ClusterRules.isNamed_of_build hbuild
    have hitems : (built.add backend).items = built.items ++ [backend] := by
      apply Roster.items_add_of_notMem
      rw [hbuilt.cluster]
      exact hnew
    have hnext : IsNamed (built.add backend) := by
      intro other hother
      obtain hbefore | rfl := Roster.mem_items_add hother
      · exact hnamed other hbefore
      · rw [hbuilt.cluster]
        exact hbuilt
    exact ⟨hnext, .of_ok (isInOrder_ofRoster hnext) (.inr ⟨backend, hitems⟩) hfound⟩

end ClusterLedger

namespace ClusterCall

open ClusterLedger (ofRoster settle)

variable {rules : ClusterRules} {built next : BackendClusters} {name : String}

/-- A call that succeeds registers the Service port whose cluster it names. -/
theorem exists_register_of_build {call : ClusterCall}
    (h : (call.build rules).run built = .ok (name, next)) :
    ∃ target : BackendTarget,
      target.clusterName = name ∧ rules.register built target = .ok next := by
  cases call with
  | servicePort service port =>
      have hrun := ClusterRules.run_clusterFor rules ⟨service, port⟩ built
      obtain ⟨next, hregister, ⟨⟩⟩ := map_eq_ok.1 (hrun.symm.trans h)
      exact ⟨_, rfl, hregister⟩
  | backendRef snapshot backend route field =>
      obtain ⟨target, -, hname, hregister⟩ := BackendRef.run_cluster_eq_ok_iff.1 h
      exact ⟨target, hname, hregister⟩

/-- A call does to a ledger what it does to its roster. -/
theorem perform_ofRoster (call : ClusterCall) (rules : ClusterRules) (built : BackendClusters) :
    call.perform rules (ofRoster built) = settle built ((call.build rules).run built) := by
  cases call with
  | servicePort service port => exact ClusterLedger.run_keep rules ⟨service, port⟩ built
  | backendRef snapshot backend route field =>
      cases hresolve : backend.resolve snapshot route field with
      | error fault =>
          rw [perform, keep, build, BackendRef.cluster, hresolve]
          rfl
      | ok target =>
          rw [perform, keep, build, BackendRef.cluster, hresolve]
          exact ClusterLedger.run_keep rules target built

/-- The step of a history of calls: the ledger stays that of a roster whose clusters are named. -/
theorem becomes_perform (call : ClusterCall) (rules : ClusterRules)
    (hnamed : ClusterLedger.IsNamed built) :
    (∃ next, ClusterLedger.IsNamed next ∧ (call.perform rules (ofRoster built)).2 = ofRoster next) ∧
      (ofRoster built).Becomes (call.perform rules (ofRoster built)).2
        (call.perform rules (ofRoster built)).1 := by
  rw [perform_ofRoster]
  cases hrun : (call.build rules).run built with
  | error fault =>
      exact ⟨⟨built, hnamed, rfl⟩, .of_error (ClusterLedger.isInOrder_ofRoster hnamed) fault⟩
  | ok result =>
      obtain ⟨name, next⟩ := result
      obtain ⟨target, rfl, hregister⟩ := exists_register_of_build hrun
      obtain ⟨hnext, hbecomes⟩ := ClusterLedger.becomes_of_register hnamed hregister
      exact ⟨⟨next, hnext, rfl⟩, hbecomes⟩

end ClusterCall

namespace ClusterRules

/-- After any calls, the ledger is that of a roster whose clusters are named. -/
theorem exists_roster_ledgerAfter (rules : ClusterRules) (calls : List ClusterCall) :
    ∃ built, ClusterLedger.IsNamed built ∧
      rules.ledgerAfter calls = ClusterLedger.ofRoster built := by
  induction calls using List.reverseRecOn with
  | nil => exact ⟨∅, List.forall_mem_nil _, rfl⟩
  | append_singleton calls call ih =>
      obtain ⟨built, hnamed, hledger⟩ := ih
      obtain ⟨next, hnext, hperform⟩ := (call.becomes_perform rules hnamed).1
      refine ⟨next, hnext, ?_⟩
      rw [ledgerAfter, List.foldl_append, ← ledgerAfter, hledger]
      exact hperform

/-- Whatever was asked for before, a call leaves a ledger in order that has grown by one cluster at
most, leaves it as it was where it fails, and finds the name that it answers with in the table.  It
answers as the same call of a translation does. -/
theorem becomes_of_call (rules : ClusterRules) (calls : List ClusterCall) (call : ClusterCall) :
    (rules.ledgerAfter calls).Becomes (call.perform rules (rules.ledgerAfter calls)).2
        (call.perform rules (rules.ledgerAfter calls)).1 ∧
      ∃ built, rules.ledgerAfter calls = ClusterLedger.ofRoster built ∧
        call.perform rules (rules.ledgerAfter calls) =
          ClusterLedger.settle built ((call.build rules).run built) := by
  obtain ⟨built, hnamed, hledger⟩ := rules.exists_roster_ledgerAfter calls
  rw [hledger]
  exact ⟨(call.becomes_perform rules hnamed).2, built, rfl, call.perform_ofRoster rules built⟩

end ClusterRules

end GatewayCompiler
