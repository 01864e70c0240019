import GatewayCompiler.Proofs.Gateway.Frame

/-!
# Namespaces that are asked for by name

A listener can admit the namespaces whose labels a selector accepts.  The name of a namespace is one
of its labels, also where there is no object of the namespace, so a selector can ask for a namespace
by its name.  The label is filled in only where it is missing, though: an object that gives its
namespace the name of another is believed.  Where no object does, a listener that asks for a name
admits the routes of the namespace of this name at most.
-/

namespace GatewayCompiler

/-- A listener that admits the namespaces that a selector accepts, where the selector asks for a
name. -/
def Listener.AsksForName (listener : Listener) (name : String) : Prop :=
  ∃ kinds selector, listener.allowedRoutes = some ⟨some ⟨.selector, some selector⟩, kinds⟩ ∧
    selector.matchLabels.get? namespaceNameLabel = some name

namespace Snapshot

/-- The name that the object of a namespace gives it with the label for it, if it does. -/
def declaredName? (snapshot : Snapshot) (ns : String) : Option String :=
  (snapshot.namespace? ns).bind (·.metadata.labels.get? namespaceNameLabel)

/-- A namespace whose object, if there is one, gives it no name but its own. -/
def IsNamedTruly (snapshot : Snapshot) (ns : String) : Prop :=
  ∀ name, snapshot.declaredName? ns = some name → name = ns

/-- What is made of a namespace by name. -/
structure GoesByName (snapshot : Snapshot) (ns : String) : Prop where
  /-- Where a listener asks for a name, routes of the namespace attach only if this is its name. -/
  named : ∀ (gateway : ObjectKey) (listener : Listener) (name : String) (route : HttpRoute),
    listener.AsksForName name → route.namespaceName = ns →
      route.attaches snapshot gateway listener = true → ns = name
  /-- If the namespace has no object, all routes attach as if it had one without labels, -/
  unlabelled : ∀ object : Namespace, object.name = ns → object.metadata.labels = ∅ →
    snapshot.namespace? ns = none →
      ∀ (route : HttpRoute) (gateway : ObjectKey) (listener : Listener),
        route.attaches (snapshot.insert (.ns object)) gateway listener =
          route.attaches snapshot gateway listener
  /-- and all Gateways are translated as if it had. -/
  translated : ∀ object : Namespace, object.name = ns → object.metadata.labels = ∅ →
    snapshot.namespace? ns = none →
      ∀ (settings : Settings) (policy : EndpointPolicy) (gateway : ObjectKey),
        Translator.translate ⟨snapshot.insert (.ns object), settings, policy⟩ gateway =
          Translator.translate ⟨snapshot, settings, policy⟩ gateway

end Snapshot

/-- A selector accepts only labels that have what it asks for. -/
theorem LabelSelector.get?_of_accepts {selector : LabelSelector} {labels : Labels}
    (h : selector.accepts labels = true) {key value : String}
    (hasks : selector.matchLabels.get? key = some value) : labels.get? key = some value := by
  rw [accepts, Bool.and_eq_true, List.all_eq_true] at h
  exact beq_iff_eq.1 (h.1 (key, value) (Table.mem_entries_iff.2 hasks))

/-- The labels with a name among them, which is this one where they have none. -/
def Labels.named (labels : Labels) (name : String) : Labels :=
  if labels.contains namespaceNameLabel then labels else labels.insert namespaceNameLabel name

theorem Labels.get?_named (labels : Labels) (name : String) :
    (labels.named name).get? namespaceNameLabel =
      some ((labels.get? namespaceNameLabel).getD name) := by
  rw [named, Table.contains]
  cases hlabel : labels.get? namespaceNameLabel with
  | none => exact Table.get?_insert_self labels _ name
  | some value => exact hlabel

namespace Snapshot

variable {snapshot : Snapshot} {object : Namespace}

/-- The labels that the object of a namespace has. -/
def ownLabels (snapshot : Snapshot) (ns : String) : Labels :=
  ((snapshot.namespace? ns).map (·.metadata.labels)).getD ∅

theorem labelsOf_eq (snapshot : Snapshot) (ns : String) :
    snapshot.labelsOf ns = Labels.named (snapshot.ownLabels ns) ns :=
  rfl

theorem get?_ownLabels_name (snapshot : Snapshot) (ns : String) :
    (snapshot.ownLabels ns).get? namespaceNameLabel = snapshot.declaredName? ns := by
  rw [ownLabels, declaredName?]
  cases snapshot.namespace? ns <;> rfl

/-- The labels of a namespace have the name that its object gives it, or else its own. -/
theorem get?_labelsOf_name (snapshot : Snapshot) (ns : String) :
    (snapshot.labelsOf ns).get? namespaceNameLabel =
      some ((snapshot.declaredName? ns).getD ns) := by
  rw [labelsOf_eq, Labels.get?_named, get?_ownLabels_name]

/-- An object without labels gives none to a namespace that had no object. -/
theorem ownLabels_insert_of_unlabelled (hnew : snapshot.namespace? object.name = none)
    (hlabels : object.metadata.labels = ∅) :
    (snapshot.insert (.ns object)).ownLabels = snapshot.ownLabels := by
  funext ns
  have hfound : (snapshot.insert (.ns object)).namespace? ns =
      if object.name = ns then some object else snapshot.namespace? ns :=
    Catalog.get?_put ns
  rw [ownLabels, ownLabels, hfound]
  split_ifs with hname
  · subst hname
    rw [hnew, Option.map_some, hlabels]
    rfl
  · rfl

theorem labelsOf_insert_of_unlabelled (hnew : snapshot.namespace? object.name = none)
    (hlabels : object.metadata.labels = ∅) :
    (snapshot.insert (.ns object)).labelsOf = snapshot.labelsOf := by
  funext ns
  rw [labelsOf_eq, labelsOf_eq, ownLabels_insert_of_unlabelled hnew hlabels]

end Snapshot

section Attachment

variable {snapshot : Snapshot} {object : Namespace} {listener : Listener} {gateway : ObjectKey}
  {route : HttpRoute} {name : String}

/-- A listener that asks for a name gets the routes of namespaces whose labels have it. -/
theorem HttpRoute.name_eq_of_attaches (hasks : listener.AsksForName name)
    (h : route.attaches snapshot gateway listener = true) :
    (snapshot.declaredName? route.namespaceName).getD route.namespaceName = name := by
  obtain ⟨kinds, selector, hallowed, hname⟩ := hasks
  rw [attaches, Bool.and_eq_true, Listener.admits, hallowed, Bool.and_eq_true] at h
  have haccepts : selector.accepts (snapshot.labelsOf route.namespaceName) = true := h.2.2
  have hlabel := LabelSelector.get?_of_accepts haccepts hname
  rw [Snapshot.get?_labelsOf_name, Option.some.injEq] at hlabel
  exact hlabel

theorem HttpRoute.attaches_insert_of_unlabelled (hnew : snapshot.namespace? object.name = none)
    (hlabels : object.metadata.labels = ∅) (route : HttpRoute) (gateway : ObjectKey)
    (listener : Listener) : route.attaches (snapshot.insert (.ns object)) gateway listener =
      route.attaches snapshot gateway listener := by
  rw [attaches, attaches, Listener.admits, Listener.admits,
    Snapshot.labelsOf_insert_of_unlabelled hnew hlabels]

theorem Translator.translate_insert_of_unlabelled
    (hnew : snapshot.namespace? object.name = none) (hlabels : object.metadata.labels = ∅)
    (settings : Settings) (policy : EndpointPolicy) (key : ObjectKey) :
    translate ⟨snapshot.insert (.ns object), settings, policy⟩ key =
      translate ⟨snapshot, settings, policy⟩ key := by
  have hserved (listener : Listener) (gateway : ObjectKey) :
      listener.servedRoutes (snapshot.insert (.ns object)) gateway =
        listener.servedRoutes snapshot gateway := by
    apply List.filter_congr
    intro route _
    rw [HttpRoute.isServed, HttpRoute.isServed,
      HttpRoute.attaches_insert_of_unlabelled hnew hlabels]
  have hresources (gateway : Gateway) :
      resources ⟨snapshot.insert (.ns object), settings, policy⟩ gateway =
        resources ⟨snapshot, settings, policy⟩ gateway := by
    apply resources_congr
    · intro listener index
      exact Listener.plan_congr (fun _ _ => rfl) settings index
    · intro listener _ rules
      apply Listener.routeConfiguration_congr (hserved listener gateway.key)
      intro route _
      apply HttpRoute.plans_congr
      intro backend field
      rfl
  have hsame : (snapshot.insert (.ns object)).gateway? key = snapshot.gateway? key := rfl
  simp only [translate, hsame, hresources]

end Attachment

/-- A namespace goes by its name, unless its object gives it another. -/
theorem Snapshot.goesByName_of_isNamedTruly {snapshot : Snapshot} {ns : String}
    (h : snapshot.IsNamedTruly ns) : snapshot.GoesByName ns where
  named gateway listener name route hasks hroute hattaches := by
    have hname := HttpRoute.name_eq_of_attaches hasks hattaches
    rw [hroute] at hname
    cases hdeclared : snapshot.declaredName? ns with
    | none =>
        rw [hdeclared] at hname
        exact hname
    | some declared =>
        rw [hdeclared] at hname
        exact (h declared hdeclared).symm.trans hname
  unlabelled object hobject hlabels hnew := by
    subst hobject
    exact HttpRoute.attaches_insert_of_unlabelled hnew hlabels
  translated object hobject hlabels hnew := by
    subst hobject
    exact Translator.translate_insert_of_unlabelled hnew hlabels

namespace Sample

/-- A listener that asks for the namespace `shop` by its name. -/
def shopOnly : Listener :=
  { http with
    allowedRoutes := some ⟨some ⟨.selector,
      some ⟨Table.ofList [(namespaceNameLabel, "shop")], []⟩⟩, []⟩ }

theorem asksForName_shopOnly : shopOnly.AsksForName "shop" :=
  ⟨[], _, rfl, by decide⟩

/-- The sample world with an object of a namespace that has these labels. -/
def labelled (ns : String) (labels : List (String × String)) : Snapshot :=
  snapshot.insert (.ns ⟨⟨ns, none, Table.ofList labels⟩⟩)

end Sample

namespace Snapshot

/-- The routes of the namespace that is asked for attach, with an object that names it too. -/
theorem goesByName_of_shop :
    (Sample.labelled "shop" [(namespaceNameLabel, "shop"), ("team", "web")]).IsNamedTruly "shop" ∧
    Sample.cart.attaches (Sample.labelled "shop" [(namespaceNameLabel, "shop"), ("team", "web")])
      Sample.gateway.key Sample.shopOnly = true ∧
    (Sample.labelled "shop" [(namespaceNameLabel, "shop"), ("team", "web")]).GoesByName "shop" := by
  have hdeclared : (Sample.labelled "shop"
      [(namespaceNameLabel, "shop"), ("team", "web")]).declaredName? "shop" = some "shop" := by
    decide +kernel
  have hnamed : (Sample.labelled "shop"
      [(namespaceNameLabel, "shop"), ("team", "web")]).IsNamedTruly "shop" := by
    intro name hname
    rw [hdeclared, Option.some.injEq] at hname
    exact hname.symm
  exact ⟨hnamed, by decide +kernel, goesByName_of_isNamedTruly hnamed⟩

/-- A namespace whose object takes the name of another gets its routes to where only those of the
other are asked for. -/
theorem not_goesByName_of_impostor :
    Sample.posts.namespaceName = "blog" ∧ Sample.shopOnly.AsksForName "shop" ∧
    Sample.posts.attaches (Sample.labelled "blog" [(namespaceNameLabel, "shop")])
      Sample.gateway.key Sample.shopOnly = true ∧
    ¬ (Sample.labelled "blog" [(namespaceNameLabel, "shop")]).GoesByName "blog" := by
  have hattaches : Sample.posts.attaches (Sample.labelled "blog" [(namespaceNameLabel, "shop")])
      Sample.gateway.key Sample.shopOnly = true := by
    decide +kernel
  refine ⟨rfl, Sample.asksForName_shopOnly, hattaches, fun h => ?_⟩
  have hname := h.named _ _ _ _ Sample.asksForName_shopOnly rfl hattaches
  exact absurd hname (by decide)

end Snapshot

end GatewayCompiler
