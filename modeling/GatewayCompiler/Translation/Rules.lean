import GatewayCompiler.Translation.Backends
import GatewayCompiler.Translation.RuleFilters

/-!
# Rules of a route

A rule becomes one planned route for each of its matches, or one that accepts every request when it
has none.  The routes share the action of the rule; a replacement of the matched prefix depends on
the match.
-/

namespace GatewayCompiler

/-- The action of a rule, and what replaces the prefix that each match has matched. -/
structure RuleAction where
  action : ActionPlan
  replacement : Option String
  deriving DecidableEq, Repr

namespace RequestRedirect

def redirectStatuses : List UInt16 := [301, 302, 303, 307, 308]

/-- A redirect without a status answers 302. -/
def ruleAction (redirect : RequestRedirect) (route : ObjectRef) (field : String) :
    Except Fault RuleAction := do
  let place := s!"{field}.filters.requestRedirect"
  let status := redirect.statusCode.getD 302
  if !redirectStatuses.contains status then
    throw (.invalid route s!"{place}.statusCode"
      s!"redirect status {status.toNat} is not one of 301, 302, 303, 307, 308")
  let change ← redirect.path.mapM (·.change route s!"{place}.path")
  return {
    action := .redirect {
      scheme := redirect.scheme
      host := redirect.hostname
      port := redirect.port.map (·.toUInt32)
      path := change.bind PathChange.whole?
      segments := none
      status := some status.toUInt32 }
    replacement := change.bind PathChange.segments? }

end RequestRedirect

/-- The sum of two weights, unless it needs more than 32 bits. -/
def addWeights? (a b : UInt32) : Option UInt32 :=
  if a.toNat + b.toNat < UInt32.size then some (a + b) else none

/-- Adds a weight to the cluster of the name, which is new at the end if it is not there. -/
def addWeight? (name : String) (weight : UInt32) : List WeightedPlan → Option (List WeightedPlan)
  | [] => some [⟨name, weight⟩]
  | cluster :: rest =>
    if cluster.name = name then
      (addWeights? cluster.weight weight).map (⟨name, ·⟩ :: rest)
    else (addWeight? name weight rest).map (cluster :: ·)

def totalWeight? (clusters : List WeightedPlan) : Option UInt32 :=
  clusters.foldlM (fun total cluster => addWeights? total cluster.weight) 0

/-- The weighted clusters with one backend more, whose cluster has this name. -/
def BackendRef.weighIn (backend : BackendRef) (route : ObjectRef) (field name : String)
    (clusters : List WeightedPlan) : Except Fault (List WeightedPlan) :=
  match addWeight? name backend.weightOrOne clusters with
  | some clusters => .ok clusters
  | none => .error (.invalid route s!"{field}.weight" "weight overflows")

namespace RouteRule

/-- Where the rule at `field` names the backend at a place in its list. -/
def backendField (field : String) (index : Nat) : String :=
  s!"{field}.backendRefs[{index}]"

/-- The weighted clusters of the backends from a place in the list on.  Backends of one cluster are
one entry with the sum of their weights. -/
def weigh (snapshot : Snapshot) (rules : ClusterRules) (route : ObjectRef) (field : String) :
    Nat → List WeightedPlan → List BackendRef → Building (List WeightedPlan)
  | _, clusters, [] => pure clusters
  | index, clusters, backend :: rest => do
    let place := backendField field index
    let name ← backend.cluster snapshot rules route place
    let clusters ← backend.weighIn route place name clusters
    weigh snapshot rules route field (index + 1) clusters rest

/-- Traffic goes to the clusters that have a weight; without any it is answered with 500. -/
def forward (route : ObjectRef) (field : String) (clusters : List WeightedPlan)
    (rewrite : Option RewritePlan) : Except Fault ActionPlan := do
  let weighted := clusters.filter (·.weight > 0)
  let some total := totalWeight? weighted
    | throw (.invalid route s!"{field}.backendRefs" "total weight overflows")
  return if total = 0 then .respond 500 none else .forward weighted (some total) rewrite

/-- The change of the path that a rewrite asks for. -/
def rewriteChange (route : ObjectRef) (field : String) (rewrite : Option UrlRewrite) :
    Except Fault (Option PathChange) :=
  (rewrite.bind (·.path)).mapM (·.change route s!"{field}.filters.urlRewrite.path")

/-- The action that forwards to these clusters and rewrites. -/
def forwardAction (route : ObjectRef) (field : String) (rewrite : Option UrlRewrite)
    (change : Option PathChange) (clusters : List WeightedPlan) : Except Fault RuleAction := do
  let rewritePlan : Option RewritePlan := rewrite.map fun rewrite =>
    ⟨rewrite.hostname, none, change.bind PathChange.whole?⟩
  let action ← forward route field clusters rewritePlan
  return ⟨action, change.bind PathChange.segments?⟩

/-- The action of a rule that does not redirect. -/
def backendAction (rule : RouteRule) (snapshot : Snapshot) (rules : ClusterRules)
    (route : ObjectRef) (field : String) (rewrite : Option UrlRewrite) : Building RuleAction := do
  let change ← rewriteChange route field rewrite
  let clusters ← weigh snapshot rules route field 0 [] rule.backendRefs
  forwardAction route field rewrite change clusters

/-- The action of a rule; one that redirects has no use for its backends. -/
def ruleAction (rule : RouteRule) (snapshot : Snapshot) (rules : ClusterRules) (route : ObjectRef)
    (field : String) (filters : RuleFilters) : Building RuleAction :=
  match filters.redirect with
  | some redirect => redirect.ruleAction route field
  | none => rule.backendAction snapshot rules route field filters.rewrite

/-- The matches of a rule, of which there is always one. -/
def effectiveMatches (rule : RouteRule) : List RouteMatch :=
  if rule.matchList.isEmpty then [RouteMatch.everything] else rule.matchList

end RouteRule

/-- The header that holds the method of a request. -/
def methodHeader : String := ":method"

def ValueMatch.plan (condition : ValueMatch) : ValuePlan :=
  match condition.kind with
  | .exact => ⟨condition.name, some condition.value, none, none⟩
  | .regularExpression => ⟨condition.name, none, some condition.value, none⟩

def PathMatch.plan (path : PathMatch) : PathPlan :=
  match path.kind with
  | .exact => .exact path.value
  | .pathPrefix => .segments path.value
  | .regularExpression => .regex path.value

namespace RouteMatch

/-- The method is matched as a header. -/
def plan (m : RouteMatch) : MatchPlan where
  path := m.pathOrRoot.plan
  headers := m.headers.map ValueMatch.plan ++
    (m.method.map fun method => (⟨methodHeader, some method, none, none⟩ : ValuePlan)).toList
  queryParameters := m.queryParams.map ValueMatch.plan

/-- The action of a rule for this match.  Only a match of a prefix has a prefix to replace. -/
def action (m : RouteMatch) (route : ObjectRef) (field : String) (ruleAction : RuleAction) :
    Except Fault ActionPlan :=
  match ruleAction.replacement with
  | none => .ok ruleAction.action
  | some replacement =>
    if m.pathOrRoot.kind = .pathPrefix then
      .ok (ruleAction.action.withReplacement ⟨m.pathOrRoot.value, replacement⟩)
    else .error (.invalid route s!"{field}.path" "ReplacePrefixMatch requires a PathPrefix match")

end RouteMatch

namespace RouteRule

/-- The planned route of one match of the rule. -/
def routeFor (route : HttpRoute) (ruleIndex : Nat) (field : String) (filters : RuleFilters)
    (ruleAction : RuleAction) (matchIndex : Nat) (m : RouteMatch) : Except Fault RoutePlan := do
  let action ← m.action route.ref s!"{field}.matches[{matchIndex}]" ruleAction
  return {
    name := some (Naming.route route.key ruleIndex matchIndex)
    routeMatch := m.plan
    action
    requestHeaders := filters.requestHeaders
    responseHeaders := filters.responseHeaders }

/-- The planned routes of the matches of a rule. -/
def routesFor (rule : RouteRule) (route : HttpRoute) (ruleIndex : Nat) (field : String)
    (filters : RuleFilters) (ruleAction : RuleAction) : Except Fault (List RoutePlan) :=
  rule.effectiveMatches.zipIdx.mapM fun (m, matchIndex) =>
    routeFor route ruleIndex field filters ruleAction matchIndex m

/-- Where a route has the rule at a place in its list. -/
def field (ruleIndex : Nat) : String :=
  s!"spec.rules[{ruleIndex}]"

/-- The planned routes of the rule at a place in its route. -/
def plans (rule : RouteRule) (snapshot : Snapshot) (rules : ClusterRules) (route : HttpRoute)
    (ruleIndex : Nat) : Building (List RoutePlan) := do
  let field := field ruleIndex
  let filters ← RuleFilters.read route.ref field rule.filters
  let ruleAction ← rule.ruleAction snapshot rules route.ref field filters
  rule.routesFor route ruleIndex field filters ruleAction

end RouteRule

namespace HttpRoute

/-- The planned routes of all rules, in order. -/
def plans (route : HttpRoute) (snapshot : Snapshot) (rules : ClusterRules) :
    Building (List RoutePlan) := do
  let plans ← route.rules.zipIdx.mapM fun (rule, index) => rule.plans snapshot rules route index
  return plans.flatten

end HttpRoute

end GatewayCompiler
