import GatewayCompiler.Proofs.Matching.Path

/-!
# Requests that a match accepts

A match of a rule is told by what it asks of a request: of its path, its headers, its query
parameters and its method.  A proxy is given matchers instead, all of which have to accept, and
finds the method in a header.  Both accept the same requests.
-/

namespace GatewayCompiler

/-- What a match looks at in a request.  A header or query parameter has at most one value, however
a request that names it several times is read. -/
structure Request where
  method : String
  path : String
  header? : String → Option String
  queryParameter? : String → Option String
  path_slash : path.toList.head? = some '/'
  header_method : header? methodHeader = some method

/-- A request for the root with no header but that of its method. -/
instance : Inhabited Request where
  default := {
    method := "GET"
    path := "/"
    header? := fun name => if name = methodHeader then some "GET" else none
    queryParameter? := fun _ => none
    path_slash := by decide
    header_method := if_pos rfl }

variable {fullMatch : FullMatch}

/-- Whether there is a value and it is the one that the condition asks for. -/
def ValueMatch.Accepts (fullMatch : FullMatch) (condition : ValueMatch) (found : Option String) :
    Prop :=
  ∃ value, found = some value ∧
    match condition.kind with
    | .exact => value = condition.value
    | .regularExpression => fullMatch condition.value value = true

/-- What a match asks of the requests it accepts. -/
structure RouteMatch.Accepts (fullMatch : FullMatch) (m : RouteMatch) (request : Request) :
    Prop where
  path : (m.path.getD ⟨.pathPrefix, "/"⟩).Accepts fullMatch request.path
  headers : ∀ condition ∈ m.headers,
    condition.Accepts fullMatch (request.header? condition.name)
  queryParameters : ∀ condition ∈ m.queryParams,
    condition.Accepts fullMatch (request.queryParameter? condition.name)
  method : ∀ method, m.method = some method → request.method = method

namespace Envoy

/-- Whether what a proxy has found under the name of a matcher is what the matcher asks for. -/
def ValueSpecifier.accepts (fullMatch : FullMatch) (found : Option String) :
    ValueSpecifier → Bool
  | .exact expected => found == some expected
  | .regex pattern => found.any (fullMatch pattern)
  | .present expected => found.isSome == expected

/-- A matcher without a specifier asks for presence. -/
def ValueMatcher.accepts (fullMatch : FullMatch) (matcher : ValueMatcher) (found : Option String) :
    Bool :=
  (matcher.specifier.getD (.present true)).accepts fullMatch found

/-- Whether all matchers of a proxy accept the request. -/
def RouteMatch.accepts (fullMatch : FullMatch) (m : RouteMatch) (request : Request) : Bool :=
  m.path.any (·.accepts fullMatch request.path) &&
    m.headers.all (fun matcher => matcher.accepts fullMatch (request.header? matcher.name)) &&
    m.queryParameters.all fun matcher =>
      matcher.accepts fullMatch (request.queryParameter? matcher.name)

end Envoy

namespace ValueMatch

theorem name_toMatcher_plan (condition : ValueMatch) :
    condition.plan.toMatcher.name = condition.name := by
  cases hkind : condition.kind <;> simp [plan, hkind, ValuePlan.toMatcher]

theorem accepts_toMatcher_plan (condition : ValueMatch) (found : Option String) :
    condition.plan.toMatcher.accepts fullMatch found = true ↔
      condition.Accepts fullMatch found := by
  cases hkind : condition.kind with
  | exact =>
      have hmatcher : condition.plan.toMatcher =
          ⟨condition.name, some (.exact condition.value)⟩ := by
        simp [plan, hkind, ValuePlan.toMatcher]
      rw [hmatcher, Envoy.ValueMatcher.accepts, Option.getD_some, Envoy.ValueSpecifier.accepts,
        Accepts, hkind, beq_iff_eq]
      simp
  | regularExpression =>
      have hmatcher : condition.plan.toMatcher =
          ⟨condition.name, some (.regex condition.value)⟩ := by
        simp [plan, hkind, ValuePlan.toMatcher]
      rw [hmatcher, Envoy.ValueMatcher.accepts, Option.getD_some, Envoy.ValueSpecifier.accepts,
        Accepts, hkind, Option.any_eq_true]

/-- Matchers that come from conditions accept what the conditions do, whatever is looked up. -/
theorem all_accepts_map_plan (lookup : String → Option String) (conditions : List ValueMatch) :
    ((conditions.map plan).map ValuePlan.toMatcher).all
        (fun matcher => matcher.accepts fullMatch (lookup matcher.name)) = true ↔
      ∀ condition ∈ conditions, condition.Accepts fullMatch (lookup condition.name) := by
  rw [List.map_map, List.all_map, List.all_eq_true]
  apply forall₂_congr
  intro condition _
  rw [Function.comp_apply, Function.comp_apply, name_toMatcher_plan, accepts_toMatcher_plan]

end ValueMatch

/-- The matcher that a method becomes accepts the header that holds the method of a request. -/
theorem all_accepts_method (method : Option String) (request : Request) :
    ((method.map fun method => (⟨methodHeader, some method, none, none⟩ : ValuePlan)).toList.map
        ValuePlan.toMatcher).all
          (fun matcher => matcher.accepts fullMatch (request.header? matcher.name)) = true ↔
      ∀ expected, method = some expected → request.method = expected := by
  cases method with
  | none => simp
  | some expected =>
      have hmatcher : ValuePlan.toMatcher ⟨methodHeader, some expected, none, none⟩ =
          ⟨methodHeader, some (.exact expected)⟩ := rfl
      simp [hmatcher, Envoy.ValueMatcher.accepts, Envoy.ValueSpecifier.accepts,
        request.header_method]

/-- A proxy accepts a request by the matchers that a match becomes exactly when the match accepts
it, whatever regular expressions match. -/
theorem RouteMatch.accepts_toMatch_plan (fullMatch : FullMatch) (m : RouteMatch)
    (request : Request) :
    m.plan.toMatch.accepts fullMatch request = true ↔ m.Accepts fullMatch request := by
  have hpath : m.plan.toMatch.path.any (·.accepts fullMatch request.path) = true ↔
      (m.path.getD ⟨.pathPrefix, "/"⟩).Accepts fullMatch request.path :=
    PathMatch.accepts_toSpecifier_plan m.pathOrRoot request.path_slash
  have hheaders : m.plan.toMatch.headers.all
        (fun matcher => matcher.accepts fullMatch (request.header? matcher.name)) = true ↔
      (∀ condition ∈ m.headers, condition.Accepts fullMatch (request.header? condition.name)) ∧
        ∀ method, m.method = some method → request.method = method := by
    rw [MatchPlan.toMatch, plan, List.map_append, List.all_append, Bool.and_eq_true,
      ValueMatch.all_accepts_map_plan, all_accepts_method]
  have hquery : m.plan.toMatch.queryParameters.all
        (fun matcher => matcher.accepts fullMatch (request.queryParameter? matcher.name)) = true ↔
      ∀ condition ∈ m.queryParams,
        condition.Accepts fullMatch (request.queryParameter? condition.name) :=
    ValueMatch.all_accepts_map_plan request.queryParameter? m.queryParams
  rw [Envoy.RouteMatch.accepts, Bool.and_eq_true, Bool.and_eq_true, hpath, hheaders, hquery]
  constructor
  · intro h
    exact ⟨h.1.1, h.1.2.1, h.2, h.1.2.2⟩
  · intro h
    exact ⟨⟨h.path, h.headers, h.method⟩, h.queryParameters⟩

end GatewayCompiler
