import GatewayCompiler.Envoy.Wire.Route
import GatewayCompiler.Proofs.Wire.Shared

/-!
# Route configurations read back

A route configuration is decoded from its bytes just as it was encoded.  A chosen member is read as
chosen also when it holds an empty text, a zero or no further parts.
-/

namespace GatewayCompiler.Envoy

open Wire

theorem PathSpecifier.chooses (path : PathSpecifier) :
    Chooses PathSpecifier.members path.fields path := by
  cases path with
  | pathPrefix value => exact .string value rfl
  | path value => exact .string value rfl
  | regex value => exact .message (regex_reads value) rfl
  | separatedPrefix value => exact .string value rfl

theorem stringMatcher_reads {fields : Fields} {specifier : ValueSpecifier}
    (h : Chooses stringMatcherMembers fields specifier) :
    Reads stringMatcherOfFields? fields (some specifier) :=
  (IsPart.chosen h).reads (by decide) fun _ => id

theorem ValueSpecifier.chooses {numbers : MatcherNumbers}
    (hdifferent : numbers.presentMatch ≠ numbers.stringMatch) (specifier : ValueSpecifier) :
    Chooses (ValueSpecifier.members numbers) (specifier.fields numbers) (some specifier) := by
  have hstring : (ValueSpecifier.members numbers).lookup numbers.stringMatch =
      some (Read.messageMember stringMatcherOfFields? id) := by
    simp [ValueSpecifier.members]
  have hpresent : (ValueSpecifier.members numbers).lookup numbers.presentMatch =
      some (Read.scalarMember Read.asBool fun b => some (.present b)) := by
    simp [ValueSpecifier.members, List.lookup_cons, beq_false_of_ne hdifferent]
  cases specifier with
  | exact value =>
      have hvalue : Reads stringMatcherOfFields? (Write.presentString 1 value)
          (some (.exact value)) :=
        stringMatcher_reads (.string value rfl)
      have hchooses := Chooses.message hvalue hstring
      exact hchooses
  | regex value =>
      have hvalue : Reads stringMatcherOfFields? (Write.message 5 (regexFields value))
          (some (.regex value)) :=
        stringMatcher_reads (.message (regex_reads value) rfl)
      have hchooses := Chooses.message hvalue hstring
      exact hchooses
  | present value =>
      have hchooses := Chooses.bool value hpresent
      exact hchooses

theorem ValueMatcher.reads (numbers : MatcherNumbers)
    (hnumbers : AreNumbers [1, numbers.stringMatch, numbers.presentMatch]) (m : ValueMatcher) :
    Reads (ValueMatcher.ofFields? numbers) (m.fields numbers) m := by
  have hdifferent : numbers.presentMatch ≠ numbers.stringMatch := by
    have hnodup := (List.nodup_cons.1 hnumbers.1).2
    simpa [eq_comm] using hnodup
  apply ((IsPart.string 1 m.name).append
    (IsPart.choice m.specifier (ValueSpecifier.chooses hdifferent))).reads hnumbers
  intro fields ⟨hname, hspecifier⟩
  simp [ValueMatcher.ofFields?, ValueSpecifier.ofFields?, hname, hspecifier]

theorem RouteMatch.reads (m : RouteMatch) : Reads RouteMatch.ofFields? m.fields m := by
  have hheader := ValueMatcher.reads headerNumbers (by decide)
  have hquery := ValueMatcher.reads queryNumbers (by decide)
  apply (IsPart.choice m.path PathSpecifier.chooses
    |>.append (IsPart.repeated 6 m.headers hheader)
    |>.append (IsPart.repeated 7 m.queryParameters hquery)).reads (by decide)
  intro fields ⟨⟨hpath, hheaders⟩, hqueryParameters⟩
  simp [RouteMatch.ofFields?, PathSpecifier.ofFields?, hpath, hheaders, hqueryParameters]

theorem ClusterWeight.reads (cluster : ClusterWeight) :
    Reads ClusterWeight.ofFields? cluster.fields cluster := by
  apply ((IsPart.string 1 cluster.name).append
    (IsPart.optional 2 cluster.weight wrappedNumber_reads)).reads (by decide)
  intro fields ⟨hname, hweight⟩
  simp [ClusterWeight.ofFields?, hname, hweight]

theorem ClusterSpecifier.chooses (specifier : ClusterSpecifier) :
    Chooses ClusterSpecifier.members specifier.fields specifier := by
  cases specifier with
  | cluster name => exact .string name rfl
  | header name => exact .string name rfl
  | weighted clusters totalWeight =>
      have hweighted : Reads ClusterSpecifier.weightedOfFields?
          (Write.repeated 1 ClusterWeight.fields clusters ++
            Write.optional (fun total => Write.message 3 (wrappedNumber total)) totalWeight)
          (.weighted clusters totalWeight) := by
        apply ((IsPart.repeated 1 clusters ClusterWeight.reads).append
          (IsPart.optional 3 totalWeight wrappedNumber_reads)).reads (by decide)
        intro fields ⟨hclusters, htotal⟩
        simp [ClusterSpecifier.weightedOfFields?, hclusters, htotal]
      have hmember : ClusterSpecifier.members.lookup 3 =
          some (Read.messageMember ClusterSpecifier.weightedOfFields? id) := rfl
      have hchooses := Chooses.message hweighted hmember
      exact hchooses

theorem ForwardAction.reads (action : ForwardAction) :
    Reads ForwardAction.ofFields? action.fields action := by
  apply (IsPart.choice action.cluster ClusterSpecifier.chooses
    |>.append (IsPart.presentString 6 action.hostRewrite)
    |>.append (IsPart.optional 32 action.regexRewrite RegexRewrite.reads)).reads (by decide)
  intro fields ⟨⟨hcluster, hhost⟩, hregex⟩
  simp [ForwardAction.ofFields?, ClusterSpecifier.ofFields?, hcluster, hhost, hregex]

theorem PathRedirect.chooses (redirect : PathRedirect) :
    Chooses PathRedirect.members redirect.fields redirect := by
  cases redirect with
  | path value => exact .string value rfl
  | regex rewrite => exact .message rewrite.reads rfl

theorem RedirectAction.reads (action : RedirectAction) :
    Reads RedirectAction.ofFields? action.fields action := by
  apply (IsPart.string 1 action.host
    |>.append (IsPart.choice action.path PathRedirect.chooses)
    |>.append (IsPart.uint32 3 action.code)
    |>.append (IsPart.presentString 7 action.scheme)
    |>.append (IsPart.uint32 8 action.port)).reads (by decide)
  intro fields ⟨⟨⟨⟨hhost, hpath⟩, hcode⟩, hscheme⟩, hport⟩
  simp [RedirectAction.ofFields?, PathRedirect.ofFields?, hhost, hpath, hcode, hscheme, hport]

theorem DirectResponse.reads (response : DirectResponse) :
    Reads DirectResponse.ofFields? response.fields response := by
  apply ((IsPart.uint32 1 response.status).append
    (IsPart.optional 2 response.body DataSource.reads)).reads (by decide)
  intro fields ⟨hstatus, hbody⟩
  simp [DirectResponse.ofFields?, hstatus, hbody]

theorem RouteAction.chooses (action : RouteAction) :
    Chooses RouteAction.members action.fields action := by
  cases action with
  | forward action => exact .message action.reads rfl
  | redirect action => exact .message action.reads rfl
  | respond response => exact .message response.reads rfl

theorem HeaderOption.reads (header : HeaderOption) :
    Reads HeaderOption.ofFields? header.fields header := by
  have hpair : Reads HeaderOption.pairOfFields?
      (Write.string 1 header.key ++ Write.string 2 header.value) (header.key, header.value) := by
    apply ((IsPart.string 1 header.key).append (IsPart.string 2 header.value)).reads (by decide)
    intro fields ⟨hkey, hvalue⟩
    simp [HeaderOption.pairOfFields?, hkey, hvalue]
  apply ((IsPart.message 1 hpair).append
    (IsPart.uint32 3 header.appendAction)).reads (by decide)
  intro fields ⟨hpair, haction⟩
  simp [HeaderOption.ofFields?, hpair, haction]

theorem Route.reads (route : Route) : Reads Route.ofFields? route.fields route := by
  apply (IsPart.optional 1 route.routeMatch RouteMatch.reads
    |>.append (IsPart.choice route.action RouteAction.chooses)
    |>.append (IsPart.repeated 9 route.requestHeadersToAdd HeaderOption.reads)
    |>.append (IsPart.repeated 10 route.responseHeadersToAdd HeaderOption.reads)
    |>.append (IsPart.strings 11 route.responseHeadersToRemove)
    |>.append (IsPart.strings 12 route.requestHeadersToRemove)
    |>.append (IsPart.string 14 route.name)).reads (by decide)
  intro fields ⟨⟨⟨⟨⟨⟨hmatch, haction⟩, hrequestAdd⟩, hresponseAdd⟩, hresponse⟩, hrequest⟩, hname⟩
  simp [Route.ofFields?, RouteAction.ofFields?, hmatch, haction, hrequestAdd, hresponseAdd,
    hresponse, hrequest, hname]

theorem VirtualHost.reads (host : VirtualHost) :
    Reads VirtualHost.ofFields? host.fields host := by
  apply (IsPart.string 1 host.name
    |>.append (IsPart.strings 2 host.domains)
    |>.append (IsPart.repeated 3 host.routes Route.reads)).reads (by decide)
  intro fields ⟨⟨hname, hdomains⟩, hroutes⟩
  simp [VirtualHost.ofFields?, hname, hdomains, hroutes]

theorem RouteConfiguration.reads (configuration : RouteConfiguration) :
    Reads RouteConfiguration.ofFields? configuration.fields configuration := by
  apply ((IsPart.string 1 configuration.name).append
    (IsPart.repeated 2 configuration.virtualHosts VirtualHost.reads)).reads (by decide)
  intro fields ⟨hname, hhosts⟩
  simp [RouteConfiguration.ofFields?, hname, hhosts]

theorem RouteConfiguration.decode?_encode (configuration : RouteConfiguration) :
    RouteConfiguration.decode? configuration.encode = some configuration :=
  configuration.reads.decode_encode

end GatewayCompiler.Envoy
