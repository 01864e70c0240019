import GatewayCompiler.Proofs.Matching.Path
import GatewayCompiler.Proofs.Matching.Regex
import GatewayCompiler.Proofs.Routes.Grouping
import GatewayCompiler.Proofs.Routes.Modifiers
import Mathlib.Data.List.TakeWhile

/-!
# Prefixes of segments and what replaces them

A route with a replacement accepts paths by one expression and rewrites them by another.  The two
come from the same prefix, and the second matches whatever the first accepts: it takes the prefix
without the slashes it ends in, up to the end of the path or a slash, and puts the replacement
there.
-/

namespace GatewayCompiler

namespace Regex

/-- What stands behind a prefix that is replaced: nothing, or a slash and what follows. -/
def restOrNothing : List Regex :=
  [optional (group (concat [one (.only '/'), many .any])), finish]

/-- What stands behind a prefix in place of which there is nothing. -/
def slashesAndRest : List Regex :=
  [many (.only '/'), group (concat [many .any]), finish]

theorem parse?_restOrNothing (text : String) :
    parse? ("^" ++ escapeRegex text ++ "(/.*)?$") =
      some (concat (start :: (literals text.toList ++ restOrNothing))) := by
  have htokens : tokens? "(/.*)?$".toList = some [.opening, .one (.only '/'), .one .any, .star,
      .closing, .question, .finish] := rfl
  exact parse?_anchored text htokens (by decide) fun _ => rfl

theorem parse?_slashesAndRest (text : String) :
    parse? ("^" ++ escapeRegex text ++ "/*(.*)$") =
      some (concat (start :: (literals text.toList ++ slashesAndRest))) := by
  have htokens : tokens? "/*(.*)$".toList = some [.one (.only '/'), .star, .opening, .one .any,
      .star, .closing, .finish] := rfl
  exact parse?_anchored text htokens (by decide) fun _ => rfl

variable {rest : List Char}

/-- Any characters but line breaks are taken up to the end. -/
theorem best?_many_any (passed : List Char) (h : '\n' ∉ rest) :
    (many .any).best? ⟨passed, rest, none⟩ = some ⟨rest.reverse ++ passed, [], none⟩ := by
  have hall : ∀ c ∈ rest, CharClass.any.accepts c = true := by
    intro c hc
    exact bne_iff_ne.2 (ne_of_mem_of_not_mem hc h)
  rw [best?_many, List.takeWhile_eq_self_iff.2 hall, List.dropWhile_eq_nil_iff.2 hall]

theorem best?_concat_singleton {regex : Regex} {place next : Place}
    (h : regex.best? place = some next) : (concat [regex]).best? place = some next :=
  best?_append h rfl

theorem best?_restOrNothing_nil (passed : List Char) :
    (concat restOrNothing).best? ⟨passed, [], none⟩ = some ⟨passed, [], none⟩ := by
  have hnothing : (group (concat [one (.only '/'), many .any])).run ⟨passed, [], none⟩ = [] := rfl
  exact best?_append (best?_optional_of_nil hnothing) (best?_concat_singleton (best?_finish rfl))

theorem best?_restOrNothing_slash (passed : List Char) (h : '\n' ∉ rest) :
    (concat restOrNothing).best? ⟨passed, '/' :: rest, none⟩ =
      some ⟨rest.reverse ++ '/' :: passed, [], some ('/' :: rest)⟩ := by
  have hslash : (one (.only '/')).best? ⟨passed, '/' :: rest, none⟩ =
      some ⟨'/' :: passed, rest, none⟩ := rfl
  have hbody := best?_append hslash (best?_concat_singleton (best?_many_any ('/' :: passed) h))
  have hoptional := best?_optional_of_some (best?_group hbody)
  have htaken : (⟨passed, '/' :: rest, none⟩ : Place).upTo
      ⟨rest.reverse ++ '/' :: passed, [], none⟩ = '/' :: rest := List.take_length
  rw [htaken] at hoptional
  exact best?_append hoptional (best?_concat_singleton (best?_finish rfl))

theorem best?_slashesAndRest (passed : List Char) (h : '\n' ∉ rest) :
    ∃ behind, (concat slashesAndRest).best? ⟨passed, rest, none⟩ =
      some ⟨behind, [], some (rest.dropWhile (· == '/'))⟩ := by
  have hslashes := best?_many (.only '/') ⟨passed, rest, none⟩
  have hline : '\n' ∉ rest.dropWhile (· == '/') :=
    fun hmem => h ((List.dropWhile_sublist _).subset hmem)
  have hgroup := best?_group (best?_concat_singleton
    (best?_many_any ((rest.takeWhile (· == '/')).reverse ++ passed) hline))
  have htaken : (⟨(rest.takeWhile (· == '/')).reverse ++ passed, rest.dropWhile (· == '/'),
      none⟩ : Place).upTo ⟨(rest.dropWhile (· == '/')).reverse ++
        ((rest.takeWhile (· == '/')).reverse ++ passed), [], none⟩ = rest.dropWhile (· == '/') :=
    List.take_length
  rw [htaken] at hgroup
  exact ⟨_, best?_append hslashes (best?_append hgroup (best?_concat_singleton (best?_finish rfl)))⟩

/-- A text without backslashes stands for itself. -/
theorem expand?_append (found : Found) {text : List Char} (h : '\\' ∉ text) (rest : List Char) :
    expand? found (text ++ rest) = (expand? found rest).map (text ++ ·) := by
  induction text with
  | nil =>
      rw [List.nil_append]
      cases expand? found rest <;> rfl
  | cons c text ih =>
      obtain ⟨hc, htext⟩ := not_or.1 (mt List.mem_cons.2 h)
      rw [List.cons_append, expand?.eq_def]
      simp [Ne.symm hc, ih htext]
      rfl

end Regex

namespace PathReplacement

variable {replacement : PathReplacement}

theorem toRegex_of_target_empty (h : trimSlashes replacement.replacement = "") :
    replacement.toRegex =
      ⟨some ("^" ++ escapeRegex (trimSlashes replacement.matched) ++ "/*(.*)$"), "/\\1"⟩ := by
  rw [toRegex, h]
  rfl

theorem toRegex_of_target_ne_empty (h : trimSlashes replacement.replacement ≠ "") :
    replacement.toRegex =
      ⟨some ("^" ++ escapeRegex (trimSlashes replacement.matched) ++ "(/.*)?$"),
        trimSlashes replacement.replacement ++ "\\1"⟩ := by
  simp only [toRegex]
  rw [if_neg (mt String.isEmpty_iff.1 h)]
  rfl

/-- What replacing the prefix makes of a path: behind the prefix without its last slashes, where
the path ends or a slash stands, nothing changes but that one slash is left if there is nothing
before it. -/
def Replaced (replacement : PathReplacement) (path result : List Char) : Prop :=
  ∃ stem target rest, IsStem stem replacement.matched.toList ∧
    IsStem target replacement.replacement.toList ∧
    path = stem ++ rest ∧ (rest = [] ∨ rest.head? = some '/') ∧
    result = if target = [] then '/' :: rest.dropWhile (· == '/') else target ++ rest

section Apply

variable {path : String} {rest : List Char}

/-- A replacement goes before what stands behind the prefix. -/
theorem rewritten?_of_target_ne_empty (htarget : trimSlashes replacement.replacement ≠ "")
    (hbackslash : '\\' ∉ (trimSlashes replacement.replacement).toList)
    (hpath : path.toList = (trimSlashes replacement.matched).toList ++ rest)
    (hrest : rest = [] ∨ rest.head? = some '/') (hline : '\n' ∉ rest) :
    replacement.toRegex.rewritten? path =
      some (String.ofList ((trimSlashes replacement.replacement).toList ++ rest)) := by
  have hmatch : ∃ next : Regex.Place, (Regex.concat Regex.restOrNothing).best?
      ⟨(trimSlashes replacement.matched).toList.reverse, rest, none⟩ = some next ∧
        next.ahead = [] ∧ next.group.getD [] = rest := by
    obtain rfl | hslash := hrest
    · exact ⟨_, Regex.best?_restOrNothing_nil _, rfl, rfl⟩
    · obtain ⟨rest, rfl⟩ := List.head?_eq_some_iff.1 hslash
      have hline := (not_or.1 (mt List.mem_cons.2 hline)).2
      exact ⟨_, Regex.best?_restOrNothing_slash _ hline, rfl, rfl⟩
  obtain ⟨next, hbest, hahead, hgroup⟩ := hmatch
  have hsearch := Regex.search_anchored hbest
  rw [← hpath] at hsearch
  rw [toRegex_of_target_ne_empty htarget]
  apply Envoy.RegexRewrite.rewritten?_of_search (Regex.parse?_restOrNothing _) hsearch
  · rw [String.toList_append, Regex.expand?_append _ hbackslash]
    rfl
  · simp [hahead, hgroup]

/-- Without a replacement one slash goes before what stands behind the prefix and its slashes. -/
theorem rewritten?_of_target_empty (htarget : trimSlashes replacement.replacement = "")
    (hpath : path.toList = (trimSlashes replacement.matched).toList ++ rest)
    (hline : '\n' ∉ rest) :
    replacement.toRegex.rewritten? path =
      some (String.ofList ('/' :: rest.dropWhile (· == '/'))) := by
  obtain ⟨behind, hbest⟩ :=
    Regex.best?_slashesAndRest (trimSlashes replacement.matched).toList.reverse hline
  have hsearch := Regex.search_anchored hbest
  rw [← hpath] at hsearch
  rw [toRegex_of_target_empty htarget]
  apply Envoy.RegexRewrite.rewritten?_of_search (Regex.parse?_slashesAndRest _) hsearch
  · show Regex.expand? _ (['/'] ++ ['\\', '1']) = some ('/' :: rest.dropWhile (· == '/'))
    rw [Regex.expand?_append _ (by decide)]
    simp [Regex.expand?]
  · rw [List.nil_append, List.append_nil]

end Apply

end PathReplacement

theorem IsStem.append_slash {stem path : List Char} (h : IsStem stem path) :
    IsStem stem (path ++ ['/']) := by
  obtain ⟨count, hpath⟩ := h.slashes
  refine ⟨h.getLast_ne, count + 1, ?_⟩
  rw [hpath, List.append_assoc, List.replicate_succ']

theorem trimSlashes_append_slash (path : String) : trimSlashes (path ++ "/") = trimSlashes path := by
  have hstem : IsStem (trimSlashes path).toList (path ++ "/").toList := by
    rw [String.toList_append]
    exact (isStem_iff.2 rfl).append_slash
  exact (String.toList_inj.1 (isStem_iff.1 hstem)).symm

/-- A prefix of segments is accepted up to the end of the path or a slash. -/
theorem PathPlan.exists_rest_of_accepts {fullMatch : FullMatch} {value path : String}
    (h : (PathPlan.segments value).toSpecifier.accepts fullMatch path = true) :
    ∃ rest, path.toList = (trimSlashes value).toList ++ rest ∧
      (rest = [] ∨ rest.head? = some '/') := by
  simp only [toSpecifier] at h
  split_ifs at h with hempty
  · rw [Envoy.PathSpecifier.accepts, List.isPrefixOf_iff_prefix] at h
    obtain ⟨rest, hrest⟩ := h
    rw [String.isEmpty_iff.1 hempty]
    exact ⟨path.toList, rfl, .inr (hrest ▸ rfl)⟩
  · rw [Envoy.PathSpecifier.accepts, Bool.or_eq_true, beq_iff_eq, List.isPrefixOf_iff_prefix] at h
    obtain rfl | ⟨rest, hrest⟩ := h
    · exact ⟨[], (List.append_nil _).symm, .inl rfl⟩
    · exact ⟨'/' :: rest, by rw [← hrest, List.append_assoc]; rfl, .inr rfl⟩

/-- Whatever a prefix of segments accepts, the expression that replaces it rewrites. -/
theorem PathReplacement.exists_replaced {replacement : PathReplacement} {fullMatch : FullMatch}
    {path : String} (hbackslash : '\\' ∉ replacement.replacement.toList)
    (hline : '\n' ∉ path.toList)
    (haccepts : (PathPlan.segments replacement.matched).toSpecifier.accepts fullMatch path = true) :
    ∃ result, replacement.toRegex.rewritten? path = some result ∧
      replacement.Replaced path.toList result.toList := by
  obtain ⟨rest, hpath, hrest⟩ := PathPlan.exists_rest_of_accepts haccepts
  have hrestLine : '\n' ∉ rest := by
    intro hmem
    rw [hpath] at hline
    exact hline (List.mem_append_right _ hmem)
  have hstem : IsStem (trimSlashes replacement.matched).toList replacement.matched.toList :=
    isStem_iff.2 rfl
  have htarget : IsStem (trimSlashes replacement.replacement).toList
      replacement.replacement.toList := isStem_iff.2 rfl
  by_cases hempty : trimSlashes replacement.replacement = ""
  · refine ⟨_, rewritten?_of_target_empty hempty hpath hrestLine, _, _, rest, hstem, htarget, hpath,
      hrest, ?_⟩
    rw [if_pos (String.toList_eq_nil_iff.2 hempty), String.toList_ofList]
  · have htargetBackslash : '\\' ∉ (trimSlashes replacement.replacement).toList := by
      intro hmem
      obtain ⟨count, hslashes⟩ := htarget.slashes
      rw [hslashes] at hbackslash
      exact hbackslash (List.mem_append_left _ hmem)
    refine ⟨_, rewritten?_of_target_ne_empty hempty htargetBackslash hpath hrest hrestLine, _, _,
      rest, hstem, htarget, hpath, hrest, ?_⟩
    rw [if_neg (mt String.toList_eq_nil_iff.1 hempty), String.toList_ofList]

/-! What a route is given -/

/-- The expression that an action rewrites paths by. -/
def Envoy.RouteAction.pathRewrite? : Envoy.RouteAction → Option Envoy.RegexRewrite
  | .forward action => action.regexRewrite
  | .redirect action =>
    match action.path with
    | some (.regex rewrite) => some rewrite
    | _ => none
  | .respond _ => none

/-- An action that replaces prefixes, and no whole paths. -/
structure RuleAction.ReplacesPrefixes (replacement : String) (action : RuleAction) : Prop where
  replacement_eq : action.replacement = some replacement
  whole : action.action.wholePath? = none

/-- The action of a rule replaces the prefixes that its filters ask to be replaced. -/
theorem RouteRule.replacesPrefixes_ruleAction {rule : RouteRule} {snapshot : Snapshot}
    {rules : ClusterRules} {route : ObjectRef} {field replacement : String} {filters : RuleFilters}
    {built built' : BackendClusters} {action : RuleAction}
    (hasked : filters.replacement? = some replacement)
    (h : (rule.ruleAction snapshot rules route field filters).run built = .ok (action, built')) :
    action.ReplacesPrefixes replacement := by
  obtain ⟨targets, -, haction, -⟩ := run_ruleAction_eq_ok_iff.1 h
  have hmodified := isModified_actionOn haction
  have hreplacement : action.replacement = some replacement := by
    rw [hmodified.replacement_eq, ← RuleFilters.replacement?_eq_bind]
    exact hasked
  exact ⟨hreplacement, hmodified.alone (hreplacement ▸ rfl)⟩

theorem ActionPlan.pathRewrite?_of_withReplacement {plan : ActionPlan}
    {replacement : PathReplacement} {name : String} {action : Envoy.RouteAction}
    (hwhole : plan.wholePath? = none)
    (h : (plan.withReplacement replacement).toAction name = .ok action) :
    (∃ response, action = .respond response) ∨
      action.pathRewrite? = some replacement.toRegex := by
  cases plan with
  | forward clusters total rewrite =>
      right
      simp only [withReplacement, toAction] at h
      split_ifs at h
      · cases h
        have hfull : (rewrite.getD RewritePlan.none).fullPath = none := by
          cases rewrite with
          | none => rfl
          | some rewrite => exact hwhole
        show RewritePlan.toRegex? _ = _
        rw [RewritePlan.toRegex?, hfull]
        rfl
  | redirect plan =>
      right
      simp only [withReplacement, toAction] at h
      split at h
      · cases h
        have hpath : plan.path = none := hwhole
        simp [Envoy.RouteAction.pathRewrite?, RedirectPlan.toAction, RedirectPlan.toPath, hpath]
      · cases h
  | respond status body =>
      left
      cases h
      exact ⟨_, rfl⟩

/-- A route that accepts a prefix of segments and, unless it answers by itself, replaces it. -/
structure Envoy.Route.ReplacesPrefix (replacement : PathReplacement) (route : Envoy.Route) :
    Prop where
  specifier : route.routeMatch.bind (·.path) =
    some (PathPlan.segments replacement.matched).toSpecifier
  rewrite : (∃ response, route.action = some (.respond response)) ∨
    route.action.bind (·.pathRewrite?) = some replacement.toRegex

section Plans

variable {rule : RouteRule} {snapshot : Snapshot} {rules : ClusterRules} {route : HttpRoute}
  {ruleIndex : Nat} {filters : RuleFilters} {replacement : String}

/-- What becomes of a match of a rule that replaces prefixes: it matches by a prefix, and its route
replaces that prefix. -/
def RouteMatch.IsReplacedBy (replacement : String) (m : RouteMatch) (plan : RoutePlan) : Prop :=
  m.pathOrRoot.kind = .pathPrefix ∧ ∀ converted, plan.toRoute = .ok converted →
    converted.ReplacesPrefix ⟨m.pathOrRoot.value, replacement⟩

theorem RouteRule.isReplacedBy_routeFor {action : RuleAction} {matchIndex : Nat}
    {field : String} {m : RouteMatch} {plan : RoutePlan}
    (haction : action.ReplacesPrefixes replacement)
    (hplan : routeFor route ruleIndex field filters action matchIndex m = .ok plan) :
    m.IsReplacedBy replacement plan := by
  obtain ⟨actionPlan, hactionPlan, ⟨⟩⟩ := bind_eq_ok.1 hplan
  simp only [RouteMatch.action, haction.replacement_eq] at hactionPlan
  split_ifs at hactionPlan with hkind
  · cases hactionPlan
    refine ⟨hkind, ?_⟩
    intro converted hconverted
    obtain ⟨convertedAction, hconvertedAction, ⟨⟩⟩ := bind_eq_ok.1 hconverted
    constructor
    · show some m.pathOrRoot.plan.toSpecifier = _
      rw [PathMatch.plan, hkind]
    · refine (ActionPlan.pathRewrite?_of_withReplacement haction.whole hconvertedAction).imp_left ?_
      rintro ⟨response, rfl⟩
      exact ⟨response, rfl⟩

/-- Every planned route of a rule is that of a match, with the action of the rule. -/
theorem RouteRule.exists_action_of_plans {built built' : BackendClusters} {plans : List RoutePlan}
    (hfilters : RuleFilters.read route.ref (field ruleIndex) rule.filters = .ok filters)
    (h : (rule.plans snapshot rules route ruleIndex).run built = .ok (plans, built')) :
    ∃ action next,
      (rule.ruleAction snapshot rules route.ref (field ruleIndex) filters).run built =
        .ok (action, next) ∧
      List.Forall₂ (fun m plan => ∃ matchIndex,
        routeFor route ruleIndex (field ruleIndex) filters action matchIndex m = .ok plan)
        rule.effectiveMatches plans := by
  rw [RouteRule.plans, StateT.run_bind, bind_eq_ok] at h
  obtain ⟨⟨read, next⟩, hread, h⟩ := h
  obtain ⟨hread, rfl⟩ := run_liftM_eq_ok.1 hread
  rw [hfilters] at hread
  cases hread
  rw [StateT.run_bind, bind_eq_ok] at h
  obtain ⟨⟨action, next⟩, haction, h⟩ := h
  refine ⟨action, next, haction, ?_⟩
  have hroutes := mapM_eq_ok_iff.1 (run_liftM_eq_ok.1 h).1
  rw [← List.zipIdx_map_fst 0 rule.effectiveMatches, List.forall₂_map_left_iff]
  apply hroutes.imp
  intro entry plan hplan
  exact ⟨entry.2, hplan⟩

/-- Every match of a rule whose filters ask for the replacement of prefixes has a route that
replaces its prefix. -/
theorem RouteRule.isReplacedBy_plans {built built' : BackendClusters} {plans : List RoutePlan}
    (hfilters : RuleFilters.read route.ref (field ruleIndex) rule.filters = .ok filters)
    (hasked : filters.replacement? = some replacement)
    (h : (rule.plans snapshot rules route ruleIndex).run built = .ok (plans, built')) :
    List.Forall₂ (RouteMatch.IsReplacedBy replacement) rule.effectiveMatches plans := by
  obtain ⟨action, next, haction, hroutes⟩ := exists_action_of_plans hfilters h
  have hreplaces := replacesPrefixes_ruleAction hasked haction
  apply hroutes.imp
  rintro m plan ⟨matchIndex, hplan⟩
  exact isReplacedBy_routeFor hreplaces hplan

end Plans

/-- What holds of the replacement of a prefix wherever it is asked for. -/
structure PathReplacement.KeepsSegments (replacement : PathReplacement) : Prop where
  replaced : ∀ (fullMatch : FullMatch) (path : String), '\n' ∉ path.toList →
    (PathPlan.segments replacement.matched).toSpecifier.accepts fullMatch path = true →
    ∃ result, replacement.toRegex.rewritten? path = some result ∧
      replacement.Replaced path.toList result.toList
  matched_slash :
    toRegex { replacement with matched := replacement.matched ++ "/" } = replacement.toRegex ∧
      (PathPlan.segments (replacement.matched ++ "/")).toSpecifier =
        (PathPlan.segments replacement.matched).toSpecifier
  replacement_slash :
    toRegex { replacement with replacement := replacement.replacement ++ "/" } =
      replacement.toRegex
  planned : ∀ (rule : RouteRule) (snapshot : Snapshot) (rules : ClusterRules) (route : HttpRoute)
    (ruleIndex : Nat) (filters : RuleFilters) (built built' : BackendClusters)
    (plans : List RoutePlan),
    RuleFilters.read route.ref (RouteRule.field ruleIndex) rule.filters = .ok filters →
    filters.replacement? = some replacement.replacement →
    (rule.plans snapshot rules route ruleIndex).run built = .ok (plans, built') →
    List.Forall₂ (fun m plan => m.IsReplacedBy replacement.replacement plan)
      rule.effectiveMatches plans

/-- A replacement without backslashes replaces segments, whatever characters the prefix has. -/
theorem PathReplacement.keepsSegments (replacement : PathReplacement)
    (h : '\\' ∉ replacement.replacement.toList) : replacement.KeepsSegments where
  replaced := by
    intro fullMatch path hline haccepts
    exact exists_replaced h hline haccepts
  matched_slash := by
    simp only [toRegex, PathPlan.toSpecifier, trimSlashes_append_slash, and_self]
  replacement_slash := by
    simp only [toRegex, trimSlashes_append_slash]
  planned := by
    intro rule snapshot rules route ruleIndex filters built built' plans hfilters hasked hplans
    exact RouteRule.isReplacedBy_plans hfilters hasked hplans

/-- A rule that puts another prefix in place of the one it matches. -/
def Sample.moved : RouteRule :=
  ⟨[prefixMatch "/v1.0/"], [⟨"URLRewrite", none, none, none,
    some ⟨none, some ⟨"ReplacePrefixMatch", none, some "/new"⟩⟩⟩], [backend none "web" none]⟩

theorem PathReplacement.keepsSegments_of_moved :
    '\\' ∉ "/new".toList ∧ (PathReplacement.mk "/v1.0/" "/new").KeepsSegments ∧
      (PathPlan.segments "/v1.0/").toSpecifier.accepts (fun _ _ => false) "/v1.0/a.b" = true ∧
      ((Sample.moved.plans Sample.snapshot Sample.rules Sample.cart 0).run ∅).map (fun result =>
          result.1.map fun plan => (plan.toRoute.map fun route =>
            (route.action.bind (·.pathRewrite?)).bind (·.rewritten? "/v1.0/a.b"))) =
        .ok [.ok (some "/new/a.b")] :=
  ⟨by decide, keepsSegments ⟨"/v1.0/", "/new"⟩ (by decide), by decide +kernel, by decide +kernel⟩

end GatewayCompiler
