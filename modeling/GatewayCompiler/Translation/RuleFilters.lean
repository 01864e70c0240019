import GatewayCompiler.Model.HttpRoute
import GatewayCompiler.Plan.Route

/-!
# Filters of a rule

A rule has at most one filter of each kind, and each filter carries the body of its kind.  A rule
does not both redirect and rewrite.
-/

namespace GatewayCompiler

/-- What the filters of a rule ask for. -/
structure RuleFilters where
  requestHeaders : HeaderChanges
  responseHeaders : HeaderChanges
  redirect : Option RequestRedirect
  rewrite : Option UrlRewrite
  deriving DecidableEq, Repr

def HeaderModifier.changes (modifier : HeaderModifier) : HeaderChanges where
  set := modifier.set.map fun header => (header.name, header.value)
  add := modifier.add.map fun header => (header.name, header.value)
  remove := modifier.remove

namespace RuleFilters

def none : RuleFilters := ⟨.none, .none, .none, .none⟩

/-- The body that a filter of this kind must have. -/
def body {α : Type} (route : ObjectRef) (field name : String) (value : Option α) : Except Fault α :=
  match value with
  | some value => .ok value
  | .none => .error (.invalid route s!"{field}.{name}" "must be set for this filter type")

/-- Takes up one filter. -/
def apply (route : ObjectRef) (field : String) (filters : RuleFilters) (filter : RouteFilter) :
    Except Fault RuleFilters :=
  match filter.kind with
  | "RequestHeaderModifier" => do
    let modifier ← body route field "requestHeaderModifier" filter.requestHeaderModifier
    return { filters with requestHeaders := modifier.changes }
  | "ResponseHeaderModifier" => do
    let modifier ← body route field "responseHeaderModifier" filter.responseHeaderModifier
    return { filters with responseHeaders := modifier.changes }
  | "RequestRedirect" => do
    let redirect ← body route field "requestRedirect" filter.requestRedirect
    return { filters with redirect := some redirect }
  | "URLRewrite" => do
    let rewrite ← body route field "urlRewrite" filter.urlRewrite
    return { filters with rewrite := some rewrite }
  | other => .error (.unsupported route field s!"filter type {other} is not supported")

/-- Takes up the filters from a place in the list on; `seen` are the kinds before it. -/
def applyAll (route : ObjectRef) (field : String) :
    Nat → List String → RuleFilters → List RouteFilter → Except Fault RuleFilters
  | _, _, filters, [] => .ok filters
  | index, seen, filters, filter :: rest => do
    let place := s!"{field}.filters[{index}]"
    if seen.contains filter.kind then
      throw (.invalid route place s!"filter {filter.kind} appears more than once in the rule")
    let filters ← apply route place filters filter
    applyAll route field (index + 1) (filter.kind :: seen) filters rest

/-- The filters of the rule at `field`. -/
def read (route : ObjectRef) (field : String) (list : List RouteFilter) :
    Except Fault RuleFilters := do
  let filters ← applyAll route field 0 [] none list
  if filters.redirect.isSome && filters.rewrite.isSome then
    throw (.invalid route s!"{field}.filters"
      "RequestRedirect and URLRewrite cannot be used in the same rule")
  return filters

end RuleFilters

/-- How the path of a request changes. -/
inductive PathChange where
  | whole (path : String)
  | segments (replacement : String)
  deriving DecidableEq, Repr

namespace PathChange

def whole? : PathChange → Option String
  | .whole path => some path
  | .segments _ => none

def segments? : PathChange → Option String
  | .whole _ => none
  | .segments replacement => some replacement

end PathChange

/-- The change that a path modifier asks for. -/
def PathModifier.change (modifier : PathModifier) (route : ObjectRef) (field : String) :
    Except Fault PathChange :=
  match modifier.kind with
  | "ReplaceFullPath" =>
    match modifier.replaceFullPath with
    | some path => .ok (.whole path)
    | none => .error (.invalid route s!"{field}.replaceFullPath" "must be set")
  | "ReplacePrefixMatch" =>
    match modifier.replacePrefixMatch with
    | some replacement => .ok (.segments replacement)
    | none => .error (.invalid route s!"{field}.replacePrefixMatch" "must be set")
  | other => .error (.unsupported route s!"{field}.type" s!"path modifier {other} is not supported")

end GatewayCompiler
