import GatewayCompiler.Proofs.Routes.Outline

/-!
# Changes of paths

A rule asks for a change of paths by a modifier, in its redirect or in its rewrite.  Another whole
path is put into the action of the rule at once.  Another prefix depends on what a match has
matched, so the action of the rule has none yet, and its text is kept beside the action for the
matches.
-/

namespace GatewayCompiler

/-- The whole path that an action puts in place of the one of a request. -/
def ActionPlan.wholePath? : ActionPlan → Option String
  | .forward _ _ rewrite => rewrite.bind (·.fullPath)
  | .redirect plan => plan.path
  | .respond _ _ => none

/-- The replacement of a prefix that is set in an action. -/
def ActionPlan.prefixReplacement? : ActionPlan → Option PathReplacement
  | .forward _ _ rewrite => rewrite.bind (·.segments)
  | .redirect plan => plan.segments
  | .respond _ _ => none

/-- The replacement of a prefix that a modifier of paths asks for. -/
def PathModifier.replacement? (modifier : PathModifier) : Option String :=
  if modifier.kind = "ReplacePrefixMatch" then modifier.replacePrefixMatch else none

/-- The replacement of prefixes that the filters of a rule ask for. -/
def RuleFilters.replacement? (filters : RuleFilters) : Option String :=
  match filters.redirect with
  | some redirect => redirect.path.bind (·.replacement?)
  | .none => (filters.rewrite.bind (·.path)).bind (·.replacement?)

/-- The modifier of paths that the filters of a rule hold. -/
def RuleFilters.pathModifier? (filters : RuleFilters) : Option PathModifier :=
  match filters.redirect with
  | some redirect => redirect.path
  | .none => filters.rewrite.bind (·.path)

theorem RuleFilters.replacement?_eq_bind (filters : RuleFilters) :
    filters.replacement? = filters.pathModifier?.bind (·.replacement?) := by
  rw [replacement?, pathModifier?]
  cases filters.redirect <;> rfl

namespace PathModifier

variable {modifier : PathModifier} {route : ObjectRef} {field : String} {change : PathChange}

/-- The change that is made of a modifier has the replacement that this asks for. -/
theorem segments?_of_change (h : modifier.change route field = .ok change) :
    change.segments? = modifier.replacement? := by
  unfold PathModifier.change at h
  rw [replacement?]
  split at h
  case h_1 hkind =>
    split at h
    · cases h
      simp [PathChange.segments?, hkind]
    · cases h
  case h_2 hkind =>
    split at h
    · rename_i hreplacement
      cases h
      simp [PathChange.segments?, hkind, hreplacement]
    · cases h
  case h_3 => cases h

/-- A modifier of which a change can be made has the replacement that its kind is for. -/
theorem isSome_replacement?_of_change (h : modifier.change route field = .ok change) :
    modifier.replacement?.isSome = true ↔ modifier.kind = "ReplacePrefixMatch" := by
  rw [replacement?]
  split_ifs with hkind
  · cases hreplacement : modifier.replacePrefixMatch with
    | none =>
        rw [PathModifier.change, hkind] at h
        simp [hreplacement] at h
    | some replacement => simp [hkind]
  · simp [hkind]

end PathModifier

section Change

variable {modifier : Option PathModifier} {route : ObjectRef} {field : String}
  {change : Option PathChange}

theorem eq_none_or_change_of_mapM (h : modifier.mapM (·.change route field) = .ok change) :
    modifier = none ∧ change = none ∨ ∃ asked made, modifier = some asked ∧ change = some made ∧
      asked.change route field = .ok made := by
  cases modifier with
  | none =>
      cases h
      exact .inl ⟨rfl, rfl⟩
  | some asked =>
      have h : (asked.change route field).map some = .ok change := h
      obtain ⟨made, hmade, rfl⟩ := map_eq_ok.1 h
      exact .inr ⟨asked, made, rfl, rfl, hmade⟩

/-- A change is of the whole path or of a prefix of it. -/
theorem whole?_eq_none_of_isSome_segments? (h : (change.bind PathChange.segments?).isSome = true) :
    change.bind PathChange.whole? = none := by
  cases change with
  | none => rfl
  | some change =>
      cases change with
      | whole path => cases h
      | segments replacement => rfl

end Change

/-- The action of a rule with a modifier of paths: the replacement that the modifier asks for is
kept for the matches, is not set yet and does not meet another path. -/
structure RuleAction.IsModified (modifier : Option PathModifier) (action : RuleAction) : Prop where
  replacement_eq : action.replacement = modifier.bind (·.replacement?)
  isSome_replacement : action.replacement.isSome = true ↔
    ∃ asked, modifier = some asked ∧ asked.kind = "ReplacePrefixMatch"
  unset : action.action.prefixReplacement? = none
  alone : action.replacement.isSome = true → action.action.wholePath? = none

section RuleAction

variable {route : ObjectRef} {field : String} {modifier : Option PathModifier}
  {change : Option PathChange} {action : RuleAction}

/-- An action that takes over the change that is made of a modifier is modified by it. -/
theorem RuleAction.isModified_of_change
    (hchange : modifier.mapM (·.change route field) = .ok change)
    (hreplacement : action.replacement = change.bind PathChange.segments?)
    (hunset : action.action.prefixReplacement? = none)
    (hwhole : action.action.wholePath? = none ∨
      action.action.wholePath? = change.bind PathChange.whole?) : action.IsModified modifier where
  replacement_eq := by
    obtain ⟨rfl, rfl⟩ | ⟨asked, made, rfl, rfl, hmade⟩ := eq_none_or_change_of_mapM hchange
    · exact hreplacement
    · exact hreplacement.trans (PathModifier.segments?_of_change hmade)
  isSome_replacement := by
    obtain ⟨rfl, rfl⟩ | ⟨asked, made, rfl, rfl, hmade⟩ := eq_none_or_change_of_mapM hchange
    · simp [hreplacement]
    · rw [hreplacement, Option.bind_some, PathModifier.segments?_of_change hmade,
        PathModifier.isSome_replacement?_of_change hmade]
      simp
  unset := hunset
  alone := by
    intro hsome
    rw [hreplacement] at hsome
    exact hwhole.elim id fun h => h.trans (whole?_eq_none_of_isSome_segments? hsome)

theorem RequestRedirect.isModified_ruleAction {redirect : RequestRedirect}
    (h : redirect.ruleAction route field = .ok action) : action.IsModified redirect.path := by
  simp only [ruleAction] at h
  split_ifs at h
  · cases h
  · obtain ⟨change, hchange, ⟨⟩⟩ := bind_eq_ok.1 h
    exact RuleAction.isModified_of_change hchange rfl rfl (.inr rfl)

theorem RouteRule.isModified_forwardAction {rewrite : Option UrlRewrite}
    {clusters : List WeightedPlan} (hchange : rewriteChange route field rewrite = .ok change)
    (h : forwardAction route field rewrite change clusters = .ok action) :
    action.IsModified (rewrite.bind (·.path)) := by
  obtain ⟨plan, hplan, ⟨⟩⟩ := bind_eq_ok.1 h
  simp only [forward] at hplan
  split at hplan
  · cases hplan
    apply RuleAction.isModified_of_change hchange rfl
    · dsimp only
      split_ifs
      · rfl
      · cases rewrite <;> rfl
    · dsimp only
      split_ifs
      · exact .inl rfl
      · cases rewrite with
        | none => exact .inl rfl
        | some rewrite => exact .inr rfl
  · cases hplan

theorem RouteRule.isModified_actionOn {rule : RouteRule} {filters : RuleFilters}
    {targets : List BackendTarget} (h : rule.actionOn route field filters targets = .ok action) :
    action.IsModified filters.pathModifier? := by
  rw [RuleFilters.pathModifier?]
  cases hredirect : filters.redirect with
  | some redirect =>
      simp only [actionOn, hredirect] at h
      exact RequestRedirect.isModified_ruleAction h
  | none =>
      simp only [actionOn, hredirect] at h
      obtain ⟨change, hchange, h⟩ := bind_eq_ok.1 h
      obtain ⟨clusters, -, h⟩ := bind_eq_ok.1 h
      exact isModified_forwardAction hchange h

end RuleAction

end GatewayCompiler
