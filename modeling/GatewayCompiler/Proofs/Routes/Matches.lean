import GatewayCompiler.Proofs.Routes.Grouping
import GatewayCompiler.Proofs.Routes.Modifiers
import GatewayCompiler.Proofs.Routes.Targets

/-!
# A route for each match

A rule is planned once: its filters are read and its action is made, and each match then gets a
route of its own with the same headers and the same action.  The one thing that a match adds to the
action is its path, where the rule puts another prefix in the place of it, and that is also the one
thing that can go wrong with a match.
-/

namespace GatewayCompiler

namespace RouteMatch

variable {m : RouteMatch}

/-- A match of whole paths or of a regular expression has no prefix to replace. -/
def LacksPrefix (m : RouteMatch) : Prop :=
  ∃ path, m.path = some path ∧ (path.kind = .exact ∨ path.kind = .regularExpression)

/-- The text of the path of a match, or that of the root. -/
def pathText (m : RouteMatch) : String :=
  (m.path.map (·.value)).getD "/"

theorem value_pathOrRoot (m : RouteMatch) : m.pathOrRoot.value = m.pathText := by
  rw [pathOrRoot, pathText]
  cases m.path <;> rfl

theorem lacksPrefix_iff : m.LacksPrefix ↔ m.pathOrRoot.kind ≠ .pathPrefix := by
  rw [LacksPrefix, pathOrRoot]
  cases hpath : m.path with
  | none => simp [PathMatch.root]
  | some path => cases hkind : path.kind <;> simp [hkind]

end RouteMatch

namespace ActionPlan

variable {action : ActionPlan} {replacement : PathReplacement}

@[simp]
theorem wholePath?_withReplacement :
    (action.withReplacement replacement).wholePath? = action.wholePath? := by
  cases action with
  | forward clusters total rewrite => cases rewrite <;> rfl
  | redirect plan => rfl
  | respond status body => rfl

/-- The replacement is set in every action that does not answer by itself. -/
theorem prefixReplacement?_withReplacement :
    (∃ status body, action.withReplacement replacement = .respond status body) ∨
      (action.withReplacement replacement).prefixReplacement? = some replacement := by
  cases action with
  | forward clusters total rewrite => exact .inr rfl
  | redirect plan => exact .inr rfl
  | respond status body => exact .inl ⟨status, body, rfl⟩

end ActionPlan

/-! What a rule asks for -/

/-- The modifier of paths in the body that a filter carries for its kind. -/
def RouteFilter.pathModifier? (filter : RouteFilter) : Option PathModifier :=
  if filter.kind = redirectKind then filter.requestRedirect.bind (·.path)
  else if filter.kind = rewriteKind then filter.urlRewrite.bind (·.path)
  else none

/-- A rule that asks for another prefix in the place of the one that is matched. -/
def RouteRule.AsksForPrefix (rule : RouteRule) : Prop :=
  ∃ filter ∈ rule.filters, ∃ modifier, filter.pathModifier? = some modifier ∧
    modifier.kind = "ReplacePrefixMatch"

section Read

variable {route : ObjectRef} {field : String} {list : List RouteFilter} {filters : RuleFilters}
  {filter : RouteFilter} {modifier : PathModifier}

/-- The body that a filter carries for its kind is the one that is read. -/
theorem RouteFilter.pathModifier?_of_takesUp (htakes : RuleFilters.TakesUp list .none filters)
    (hmem : filter ∈ list) :
    filter.pathModifier? =
      if filter.kind = redirectKind then filters.redirect.bind (·.path)
      else if filter.kind = rewriteKind then filters.rewrite.bind (·.path)
      else none := by
  rw [pathModifier?]
  split_ifs with hredirect hrewrite
  · obtain ⟨redirect, hbody, hheld⟩ :=
      Option.map_eq_some_iff.1 (htakes.redirect.present filter hmem hredirect)
    have hheld : some redirect = filters.redirect := hheld
    rw [hbody, hheld]
  · obtain ⟨rewrite, hbody, hheld⟩ :=
      Option.map_eq_some_iff.1 (htakes.rewrite.present filter hmem hrewrite)
    have hheld : some rewrite = filters.rewrite := hheld
    rw [hbody, hheld]
  · rfl

/-- The modifier of paths that is read is that of a filter of the rule. -/
theorem RuleFilters.pathModifier?_of_read (h : read route field list = .ok filters) :
    filters.pathModifier? = some modifier ↔
      ∃ filter ∈ list, filter.pathModifier? = some modifier := by
  obtain ⟨hreadable, htakes⟩ := areReadable_of_read h
  have hkinds : redirectKind ≠ rewriteKind := by decide
  constructor
  · intro hmodifier
    rw [pathModifier?] at hmodifier
    split at hmodifier
    case h_1 redirect hredirect =>
      obtain ⟨filter, hmem, hkind⟩ := htakes.isSome_redirect_iff.1 (hredirect ▸ rfl)
      refine ⟨filter, hmem, ?_⟩
      rw [RouteFilter.pathModifier?_of_takesUp htakes hmem, if_pos hkind, hredirect]
      exact hmodifier
    case h_2 =>
      obtain ⟨rewrite, hrewrite, -⟩ := Option.bind_eq_some_iff.1 hmodifier
      obtain ⟨filter, hmem, hkind⟩ := htakes.isSome_rewrite_iff.1 (hrewrite ▸ rfl)
      refine ⟨filter, hmem, ?_⟩
      rw [RouteFilter.pathModifier?_of_takesUp htakes hmem, if_neg (hkind ▸ hkinds.symm),
        if_pos hkind]
      exact hmodifier
  · rintro ⟨filter, hmem, hmodifier⟩
    rw [RouteFilter.pathModifier?_of_takesUp htakes hmem] at hmodifier
    split_ifs at hmodifier with hredirectKind hrewriteKind
    · obtain ⟨redirect, hredirect, hpath⟩ := Option.bind_eq_some_iff.1 hmodifier
      rw [pathModifier?, hredirect]
      exact hpath
    · have hredirect : filters.redirect = .none := by
        rw [← Option.not_isSome_iff_eq_none, htakes.isSome_redirect_iff]
        intro hother
        exact hreadable.exclusive ⟨hother, filter, hmem, hrewriteKind⟩
      rw [pathModifier?, hredirect]
      exact hmodifier

/-- What the filters of a rule ask of paths is what one of the filters asks of them. -/
theorem RuleFilters.exists_pathModifier?_iff (h : read route field list = .ok filters)
    (property : PathModifier → Prop) :
    (∃ modifier, filters.pathModifier? = some modifier ∧ property modifier) ↔
      ∃ filter ∈ list, ∃ modifier, filter.pathModifier? = some modifier ∧ property modifier := by
  simp only [pathModifier?_of_read h]
  constructor
  · rintro ⟨modifier, ⟨filter, hmem, hfilter⟩, hproperty⟩
    exact ⟨filter, hmem, modifier, hfilter, hproperty⟩
  · rintro ⟨filter, hmem, modifier, hfilter, hproperty⟩
    exact ⟨modifier, ⟨filter, hmem, hfilter⟩, hproperty⟩

end Read

/-! What a match adds -/

/-- What is at fault with a match that lacks a prefix to replace. -/
def RouteRule.prefixFault (route : ObjectRef) (ruleIndex matchIndex : Nat) : Fault :=
  let place := s!"{field ruleIndex}.matches[{matchIndex}]"
  .invalid route s!"{place}.path" "ReplacePrefixMatch requires a PathPrefix match"

/-- The route of one match of a rule with these filters and this action. -/
structure RoutePlan.IsOf (plan : RoutePlan) (route : ObjectKey) (ruleIndex matchIndex : Nat)
    (m : RouteMatch) (filters : RuleFilters) (action : RuleAction) : Prop where
  name_eq : plan.name = some (Naming.route route ruleIndex matchIndex)
  routeMatch_eq : plan.routeMatch = m.plan
  requestHeaders_eq : plan.requestHeaders = filters.requestHeaders
  responseHeaders_eq : plan.responseHeaders = filters.responseHeaders
  action_eq : plan.action = match action.replacement with
    | none => action.action
    | some replacement => action.action.withReplacement ⟨m.pathText, replacement⟩
  /-- Unless the route answers by itself, the prefix that it replaces is the path of the match. -/
  replaced : (∃ status body, plan.action = .respond status body) ∨
    plan.action.prefixReplacement? = action.replacement.map (⟨m.pathText, ·⟩)
  not_both : plan.action.wholePath? = none ∨ plan.action.prefixReplacement? = none

section RouteFor

variable {route : HttpRoute} {ruleIndex matchIndex : Nat} {filters : RuleFilters}
  {action : RuleAction} {m : RouteMatch} {plan : RoutePlan} {fault : Fault}

theorem RouteRule.routeFor_eq_error_iff :
    routeFor route ruleIndex (field ruleIndex) filters action matchIndex m = .error fault ↔
      action.replacement.isSome = true ∧ m.LacksPrefix ∧
        fault = prefixFault route.ref ruleIndex matchIndex := by
  rw [RouteMatch.lacksPrefix_iff, routeFor, RouteMatch.action]
  cases action.replacement with
  | none => simp [ok_bind, pure, Except.pure]
  | some replacement =>
      by_cases hkind : m.pathOrRoot.kind = .pathPrefix
      · simp [hkind, ok_bind, pure, Except.pure]
      · simp [hkind, bind, Except.bind, prefixFault, eq_comm]

theorem RouteRule.not_lacksPrefix_of_routeFor (hreplacement : action.replacement.isSome = true)
    (h : routeFor route ruleIndex (field ruleIndex) filters action matchIndex m = .ok plan) :
    ¬ m.LacksPrefix := by
  intro hlacks
  rw [routeFor_eq_error_iff.2 ⟨hreplacement, hlacks, rfl⟩] at h
  cases h

theorem RouteRule.isOf_of_routeFor {modifier : Option PathModifier}
    (haction : action.IsModified modifier)
    (h : routeFor route ruleIndex (field ruleIndex) filters action matchIndex m = .ok plan) :
    plan.IsOf route.key ruleIndex matchIndex m filters action := by
  obtain ⟨actionPlan, hplan, ⟨⟩⟩ := bind_eq_ok.1 h
  rw [RouteMatch.action] at hplan
  cases hreplacement : action.replacement with
  | none =>
      simp only [hreplacement, Except.ok.injEq] at hplan
      subst hplan
      refine ⟨rfl, rfl, rfl, rfl, ?_, .inr ?_, .inr haction.unset⟩
      · rw [hreplacement]
      · rw [hreplacement]
        exact haction.unset
  | some replacement =>
      simp only [hreplacement] at hplan
      split_ifs at hplan
      cases hplan
      have hwhole := haction.alone (hreplacement ▸ rfl)
      refine ⟨rfl, rfl, rfl, rfl, ?_, ?_, .inl ?_⟩
      · simp only [hreplacement, m.value_pathOrRoot]
      · simp only [hreplacement, m.value_pathOrRoot]
        exact ActionPlan.prefixReplacement?_withReplacement
      · exact ActionPlan.wholePath?_withReplacement.trans hwhole

end RouteFor

/-! A rule with all its matches -/

namespace RouteRule

variable {rule : RouteRule} {snapshot : Snapshot} {rules : ClusterRules} {route : HttpRoute}
  {ruleIndex : Nat} {filters : RuleFilters} {action : RuleAction} {built built' : BackendClusters}
  {fault : Fault}

theorem length_effectiveMatches (rule : RouteRule) :
    rule.effectiveMatches.length = max 1 rule.matchList.length := by
  rw [effectiveMatches]
  cases rule.matchList with
  | nil => rfl
  | cons m matchList => exact (max_eq_right (Nat.le_add_left 1 _)).symm

/-- A match without a prefix is one that is declared: the one of a rule without matches is of the
root. -/
theorem getElem?_matchList_of_lacksPrefix {matchIndex : Nat} {m : RouteMatch}
    (h : rule.effectiveMatches[matchIndex]? = some m) (hlacks : m.LacksPrefix) :
    rule.matchList[matchIndex]? = some m := by
  rw [effectiveMatches] at h
  split_ifs at h
  · have heverything : m ∈ [RouteMatch.everything] := List.mem_of_getElem? h
    obtain rfl := List.mem_singleton.1 heverything
    exact absurd rfl (RouteMatch.lacksPrefix_iff.1 hlacks)
  · exact h

theorem effectiveMatches_of_getElem? {matchIndex : Nat} {m : RouteMatch}
    (h : rule.matchList[matchIndex]? = some m) : rule.effectiveMatches = rule.matchList := by
  rw [effectiveMatches, if_neg]
  intro hempty
  rw [List.isEmpty_iff.1 hempty] at h
  cases h

theorem run_plans_of_accepted
    (hfilters : RuleFilters.read route.ref (field ruleIndex) rule.filters = .ok filters)
    (haction : (rule.ruleAction snapshot rules route.ref (field ruleIndex) filters).run built =
      .ok (action, built')) :
    (rule.plans snapshot rules route ruleIndex).run built =
      (rule.routesFor route ruleIndex (field ruleIndex) filters action).map (·, built') := by
  simp only [plans, StateT.run_bind, hfilters]
  change (rule.ruleAction snapshot rules route.ref (field ruleIndex) filters).run built >>= _ = _
  rw [haction]
  cases hroutes : rule.routesFor route ruleIndex (field ruleIndex) filters action <;>
    simp only [ok_bind, hroutes] <;> rfl

/-- The matches of a rule fail with the fault of the first that lacks a prefix to replace. -/
theorem exists_first_of_routesFor
    (h : rule.routesFor route ruleIndex (field ruleIndex) filters action = .error fault) :
    action.replacement.isSome = true ∧ ∃ matchIndex m,
      rule.matchList[matchIndex]? = some m ∧ m.LacksPrefix ∧
        fault = prefixFault route.ref ruleIndex matchIndex ∧
        ∀ earlier < matchIndex, ∀ other, rule.matchList[earlier]? = some other →
          ¬ other.LacksPrefix := by
  obtain ⟨matchIndex, m, hm, hfault, hearlier⟩ := exists_first_of_mapM_zipIdx h
  obtain ⟨hreplacement, hlacks, rfl⟩ := routeFor_eq_error_iff.1 hfault
  -- A match that fails is declared, so its place is the same among the matches of the rule.
  have hdeclared := getElem?_matchList_of_lacksPrefix hm hlacks
  refine ⟨hreplacement, matchIndex, m, hdeclared, hlacks, rfl, ?_⟩
  intro earlier hlt other hother hlacks
  rw [← effectiveMatches_of_getElem? hother] at hother
  obtain ⟨plan, hplan⟩ := hearlier earlier hlt other hother
  exact not_lacksPrefix_of_routeFor hreplacement hplan hlacks

/-- The matches of a rule fail exactly if there is a prefix to replace that one of them lacks. -/
theorem exists_fault_of_routesFor_iff :
    (∃ fault, rule.routesFor route ruleIndex (field ruleIndex) filters action = .error fault) ↔
      action.replacement.isSome = true ∧ ∃ m ∈ rule.matchList, m.LacksPrefix := by
  constructor
  · rintro ⟨fault, hfault⟩
    obtain ⟨hreplacement, matchIndex, m, hm, hlacks, -⟩ := exists_first_of_routesFor hfault
    exact ⟨hreplacement, m, List.mem_of_getElem? hm, hlacks⟩
  · rintro ⟨hreplacement, m, hm, hlacks⟩
    cases hroutes : rule.routesFor route ruleIndex (field ruleIndex) filters action with
    | error fault => exact ⟨fault, rfl⟩
    | ok plans =>
        obtain ⟨matchIndex, hdeclared⟩ := List.mem_iff_getElem?.1 hm
        rw [← effectiveMatches_of_getElem? hdeclared] at hm
        obtain ⟨matchIndex, plan, hplan⟩ := exists_eq_ok_at_place hroutes hm
        exact absurd hlacks (not_lacksPrefix_of_routeFor hreplacement hplan)

theorem length_of_routesFor {plans : List RoutePlan}
    (h : rule.routesFor route ruleIndex (field ruleIndex) filters action = .ok plans) :
    plans.length = max 1 rule.matchList.length := by
  rw [← (mapM_eq_ok_iff.1 h).length_eq, List.length_zipIdx, length_effectiveMatches]

/-- The action of a rule has a replacement for each match exactly if a filter asks for one. -/
theorem isSome_replacement_iff_asksForPrefix {targets : List BackendTarget}
    (hfilters : RuleFilters.read route.ref (field ruleIndex) rule.filters = .ok filters)
    (haction : rule.actionOn route.ref (field ruleIndex) filters targets = .ok action) :
    action.replacement.isSome = true ↔ rule.AsksForPrefix := by
  rw [(isModified_actionOn haction).isSome_replacement,
    RuleFilters.exists_pathModifier?_iff hfilters]
  rfl

/-- The replacement for each match is the text that a filter asks for. -/
theorem replacement_eq_some_iff {targets : List BackendTarget} {text : String}
    (hfilters : RuleFilters.read route.ref (field ruleIndex) rule.filters = .ok filters)
    (haction : rule.actionOn route.ref (field ruleIndex) filters targets = .ok action) :
    action.replacement = some text ↔
      ∃ filter ∈ rule.filters, ∃ modifier, filter.pathModifier? = some modifier ∧
        modifier.replacement? = some text := by
  rw [(isModified_actionOn haction).replacement_eq, Option.bind_eq_some_iff]
  exact RuleFilters.exists_pathModifier?_iff hfilters fun modifier =>
    modifier.replacement? = some text

/-- A rule that redirects has the same action whatever its backends are, wherever they lead and
whatever clusters are there, and builds none. -/
theorem ruleAction_of_redirects (hredirects : rule.redirects = true)
    (hfilters : RuleFilters.read route.ref (field ruleIndex) rule.filters = .ok filters)
    (haction : (rule.ruleAction snapshot rules route.ref (field ruleIndex) filters).run built =
      .ok (action, built'))
    (backends : List BackendRef) (snapshot' : Snapshot) (rules' : ClusterRules)
    (next : BackendClusters) :
    ({ rule with backendRefs := backends }.ruleAction snapshot' rules' route.ref (field ruleIndex)
      filters).run next = .ok (action, next) := by
  have hredirect := RuleFilters.isSome_redirect_of_read hfilters
  rw [← redirects, hredirects] at hredirect
  obtain ⟨redirect, hredirect⟩ := Option.isSome_iff_exists.1 hredirect
  simp only [ruleAction, hredirect, run_liftM_eq_ok] at haction ⊢
  exact ⟨haction.1, trivial⟩

/-- What comes of a rule whose filters are read and whose action is made: its routes, with the
clusters that the action has left, or what is at fault with one of its matches. -/
structure IsPlanned (rule : RouteRule) (route : HttpRoute) (ruleIndex : Nat)
    (filters : RuleFilters) (action : RuleAction) (built : BackendClusters)
    (outcome : Except Fault (List RoutePlan × BackendClusters)) : Prop where
  fails_iff : (∃ fault, outcome = .error fault) ↔
    rule.AsksForPrefix ∧ ∃ m ∈ rule.matchList, m.LacksPrefix
  names_first : ∀ fault, outcome = .error fault → ∃ matchIndex m,
    rule.matchList[matchIndex]? = some m ∧ m.LacksPrefix ∧
      fault = prefixFault route.ref ruleIndex matchIndex ∧
      ∀ earlier < matchIndex, ∀ other, rule.matchList[earlier]? = some other → ¬ other.LacksPrefix
  count : ∀ plans built', outcome = .ok (plans, built') →
    plans.length = max 1 rule.matchList.length ∧ built' = built
  each : ∀ plans built', outcome = .ok (plans, built') →
    ∀ matchIndex m, rule.effectiveMatches[matchIndex]? = some m →
      ∃ plan : RoutePlan, plans[matchIndex]? = some plan ∧
        plan.IsOf route.key ruleIndex matchIndex m filters action
  /-- The headers are changed as the filters for them say. -/
  taken : RuleFilters.TakesUp rule.filters .none filters
  /-- A prefix is replaced by the text that a filter asks for. -/
  replacement_iff : ∀ text, action.replacement = some text ↔
    ∃ filter ∈ rule.filters, ∃ modifier, filter.pathModifier? = some modifier ∧
      modifier.replacement? = some text
  redirected : rule.redirects = true →
    ∀ (snapshot : Snapshot) (rules : ClusterRules) (backends : List BackendRef)
      (built' : BackendClusters),
      ({ rule with backendRefs := backends }.plans snapshot rules route ruleIndex).run built' =
        outcome.map fun result => (result.1, built')

/-- A rule becomes a route for each of its matches, unless one lacks the prefix that the rule asks
to replace. -/
theorem isPlanned_run_plans
    (hfilters : RuleFilters.read route.ref (field ruleIndex) rule.filters = .ok filters)
    (haction : (rule.ruleAction snapshot rules route.ref (field ruleIndex) filters).run built =
      .ok (action, built')) :
    rule.IsPlanned route ruleIndex filters action built'
      ((rule.plans snapshot rules route ruleIndex).run built) := by
  obtain ⟨targets, -, hactionOn, -⟩ := run_ruleAction_eq_ok_iff.1 haction
  have hrun := run_plans_of_accepted hfilters haction
  refine ⟨?_, ?_, ?_, ?_, (RuleFilters.areReadable_of_read hfilters).2,
    fun _ => replacement_eq_some_iff hfilters hactionOn, ?_⟩
  · simp only [hrun, map_eq_error]
    rw [exists_fault_of_routesFor_iff, isSome_replacement_iff_asksForPrefix hfilters hactionOn]
  · intro fault hfault
    rw [hrun, map_eq_error] at hfault
    exact (exists_first_of_routesFor hfault).2
  · intro plans next hplans
    obtain ⟨plans, hroutes, ⟨⟩⟩ := map_eq_ok.1 (hrun.symm.trans hplans)
    exact ⟨length_of_routesFor hroutes, rfl⟩
  · intro plans next hplans matchIndex m hm
    obtain ⟨plans, hroutes, ⟨⟩⟩ := map_eq_ok.1 (hrun.symm.trans hplans)
    obtain ⟨plan, hplan, hroute⟩ := exists_getElem?_of_mapM_zipIdx hroutes hm
    exact ⟨plan, hplan, isOf_of_routeFor (isModified_actionOn hactionOn) hroute⟩
  · intro hredirects snapshot' rules' backends next
    have hother : ({ rule with backendRefs := backends }.plans snapshot' rules' route
        ruleIndex).run next =
          (rule.routesFor route ruleIndex (field ruleIndex) filters action).map (·, next) :=
      run_plans_of_accepted hfilters
        (ruleAction_of_redirects hredirects hfilters haction backends snapshot' rules' next)
    rw [hother, hrun]
    cases rule.routesFor route ruleIndex (field ruleIndex) filters action <;> rfl

end RouteRule

/-- A rule of two matches, the second without a path, that puts another prefix in their place. -/
def Sample.relocated : RouteRule :=
  ⟨[prefixMatch "/v1", ⟨none, [], [], some "GET"⟩],
    [⟨"URLRewrite", none, none, none,
      some ⟨none, some ⟨"ReplacePrefixMatch", none, some "/new"⟩⟩⟩], [backend none "web" none]⟩

theorem RouteRule.isPlanned_of_relocated :
    ∃ filters action built,
      RuleFilters.read Sample.cart.ref (field 0) Sample.relocated.filters = .ok filters ∧
      (Sample.relocated.ruleAction Sample.snapshot Sample.rules Sample.cart.ref (field 0)
        filters).run ∅ = .ok (action, built) ∧
      Sample.relocated.IsPlanned Sample.cart 0 filters action built
        ((Sample.relocated.plans Sample.snapshot Sample.rules Sample.cart 0).run ∅) ∧
      ((Sample.relocated.plans Sample.snapshot Sample.rules Sample.cart 0).run ∅).map (fun result =>
          result.1.map (·.action.prefixReplacement?)) =
        .ok [some ⟨"/v1", "/new"⟩, some ⟨"/", "/new"⟩] := by
  have hplanned : ((Sample.relocated.plans Sample.snapshot Sample.rules Sample.cart 0).run ∅).map
      (fun result => result.1.map (·.action.prefixReplacement?)) =
        .ok [some ⟨"/v1", "/new"⟩, some ⟨"/", "/new"⟩] := by
    decide +kernel
  obtain ⟨⟨plans, after⟩, hrun, -⟩ := map_eq_ok.1 hplanned
  simp only [RouteRule.plans, StateT.run_bind, bind_eq_ok, Prod.exists, run_liftM_eq_ok] at hrun
  obtain ⟨filters, _, ⟨hfilters, rfl⟩, action, built, haction, -⟩ := hrun
  exact ⟨filters, action, built, hfilters, haction, isPlanned_run_plans hfilters haction, hplanned⟩

end GatewayCompiler
