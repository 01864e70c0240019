import GatewayCompiler.Proofs.Document
import GatewayCompiler.Proofs.FirstSeen

/-!
# Contents of a graph

A graph is filled with resources of four kinds in any interleaving.  Of each kind it has the first
resource of every name in the order in which these came, whatever came of the other kinds, and its
index, its size and its resources as bytes tell the same.
-/

namespace GatewayCompiler

/-- The resources of one kind among these, in their order. -/
def resourcesOf (kind : ResourceKind) (resources : List AnyResource) : List kind.Resource :=
  resources.filterMap fun resource =>
    if h : resource.1 = kind then some (h ▸ resource.2) else none

theorem mem_resourcesOf_iff {kind : ResourceKind} {resources : List AnyResource}
    {resource : kind.Resource} :
    resource ∈ resourcesOf kind resources ↔ (⟨kind, resource⟩ : AnyResource) ∈ resources := by
  rw [resourcesOf, List.mem_filterMap]
  constructor
  · rintro ⟨⟨other, message⟩, hmem, hsome⟩
    obtain ⟨rfl, rfl⟩ : ∃ h : other = kind, h ▸ message = resource := by
      simpa [Option.dite_none_right_eq_some] using hsome
    exact hmem
  · intro hmem
    exact ⟨_, hmem, by simp⟩

theorem resourcesOf_concat (kind : ResourceKind) (resources : List AnyResource)
    (resource : AnyResource) :
    resourcesOf kind (resources ++ [resource]) = resourcesOf kind resources ++
      (if h : resource.1 = kind then [h ▸ resource.2] else []) := by
  rw [resourcesOf, List.filterMap_append]
  by_cases hkind : resource.1 = kind <;> simp [resourcesOf, hkind]

namespace Graph

/-- The graph that these resources are offered to in their order. -/
def ofResources (resources : List AnyResource) : Graph :=
  resources.foldl (fun graph resource => (graph.offer resource).2) ∅

/-- The resources of one kind with the index of their names. -/
def roster (graph : Graph) : (kind : ResourceKind) → Roster kind.Resource kind.nameOf
  | .listener => graph.listeners
  | .routeConfiguration => graph.routeConfigurations
  | .cluster => graph.clusters
  | .loadAssignment => graph.loadAssignments

variable {graph : Graph}

theorem items_roster (graph : Graph) (kind : ResourceKind) :
    (graph.roster kind).items = graph.resources kind := by
  cases kind <;> rfl

theorem names_roster (graph : Graph) (kind : ResourceKind) :
    (graph.roster kind).names = graph.names kind := by
  cases kind <;> rfl

theorem contains_roster (graph : Graph) (kind : ResourceKind) :
    (graph.roster kind).contains = graph.contains kind := by
  cases kind <;> rfl

/-- An offer of a resource is one to the roster of its kind. -/
theorem fst_offer (graph : Graph) (resource : AnyResource) :
    (graph.offer resource).1 = ((graph.roster resource.1).offer resource.2).1 := by
  obtain ⟨_ | _ | _ | _, _⟩ := resource <;> rfl

theorem roster_offer (graph : Graph) (resource : AnyResource) (kind : ResourceKind) :
    (graph.offer resource).2.roster kind =
      if h : resource.1 = kind then (graph.roster kind).add (h ▸ resource.2)
      else graph.roster kind := by
  obtain ⟨_ | _ | _ | _, _⟩ := resource <;> cases kind <;> rfl

theorem ext_roster {graph' : Graph} (h : ∀ kind, graph.roster kind = graph'.roster kind) :
    graph = graph' := by
  obtain ⟨_, _, _, _⟩ := graph
  rw [mk.injEq]
  exact ⟨h .listener, h .routeConfiguration, h .cluster, h .loadAssignment⟩

/-- What was offered of the other kinds makes no difference to a kind. -/
theorem roster_ofResources (resources : List AnyResource) (kind : ResourceKind) :
    (ofResources resources).roster kind = Roster.ofList (resourcesOf kind resources) := by
  induction resources using List.reverseRecOn with
  | nil => cases kind <;> rfl
  | append_singleton resources resource ih =>
      have hlast : ofResources (resources ++ [resource]) =
          ((ofResources resources).offer resource).2 := by
        rw [ofResources, List.foldl_append]
        rfl
      rw [hlast, roster_offer, resourcesOf_concat, ih]
      split
      · rw [Roster.ofList_concat]
      · rw [List.append_nil]

theorem mem_names_ofResources {resources : List AnyResource} {kind : ResourceKind} {name : String} :
    name ∈ (ofResources resources).names kind ↔
      ∃ resource, (⟨kind, resource⟩ : AnyResource) ∈ resources ∧ kind.nameOf resource = name := by
  rw [← names_roster, roster_ofResources, Roster.mem_names_ofList, List.mem_map]
  simp only [mem_resourcesOf_iff]

/-- What a graph is that these resources were offered to. -/
structure Keeps (graph : Graph) (offered : List AnyResource) : Prop where
  /-- A kind has the first resource of every name, in the order in which the names were first seen,
  and no other; what was offered of the other kinds does not count. -/
  resources_eq : ∀ kind, graph.resources kind =
    ((resourcesOf kind offered).map kind.nameOf).eraseDups.filterMap fun name =>
      (resourcesOf kind offered).find? (kind.nameOf · == name)
  names_eq : ∀ kind, graph.names kind = (graph.resources kind).map kind.nameOf
  /-- The index of a kind has the names that are listed. -/
  contains_iff : ∀ kind name, graph.contains kind name = true ↔ name ∈ graph.names kind
  size_eq : graph.size = (graph.resources .listener).length +
    (graph.resources .routeConfiguration).length + (graph.resources .cluster).length +
    (graph.resources .loadAssignment).length
  /-- Every kind is in the map, with its resources as bytes where they are listed by name. -/
  map_eq : graph.resourceMap =
    [.listener, .routeConfiguration, .cluster, .loadAssignment].map fun (kind : ResourceKind) =>
      (kind, (graph.resources kind).map fun resource =>
        ⟨kind.nameOf resource, kind, kind.encode resource⟩)

/-- What comes of offering one more resource: an answer and the next graph. -/
structure Admits (graph : Graph) (offered : List AnyResource) (resource : AnyResource)
    (answer : Bool) (next : Graph) : Prop where
  answer_iff : answer = true ↔
    ∀ earlier, (⟨resource.1, earlier⟩ : AnyResource) ∈ offered →
      resource.1.nameOf earlier ≠ resource.1.nameOf resource.2
  unchanged : answer = false → next = graph
  appended : answer = true → next.resources resource.1 = graph.resources resource.1 ++ [resource.2]
  others : ∀ kind, kind ≠ resource.1 → next.resources kind = graph.resources kind ∧
    next.names kind = graph.names kind ∧ next.contains kind = graph.contains kind

theorem keeps_offered (offered : List AnyResource) : (ofResources offered).Keeps offered where
  resources_eq kind := by
    rw [← items_roster, roster_ofResources]
    exact Roster.items_ofList _
  names_eq kind := by
    rw [← names_roster, ← items_roster]
    rfl
  contains_iff kind name := by
    rw [← contains_roster, ← names_roster]
    exact Roster.contains_iff
  size_eq := rfl
  map_eq := by
    rw [resourceMap]
    simp only [encoded_eq_map]
    rfl

theorem admits_offer (offered : List AnyResource) (resource : AnyResource) :
    (ofResources offered).Admits offered resource ((ofResources offered).offer resource).1
      ((ofResources offered).offer resource).2 := by
  have hanswer := (fst_offer (ofResources offered) resource).trans (Roster.fst_offer _ resource.2)
  have hnext := roster_offer (ofResources offered) resource
  constructor
  · rw [hanswer, Bool.not_eq_true', ← Bool.not_eq_true, Roster.contains_iff, names_roster,
      mem_names_ofResources]
    simp
  · intro hfalse
    rw [hanswer, Bool.not_eq_false'] at hfalse
    apply ext_roster
    intro kind
    rw [hnext]
    split
    · rename_i hkind
      subst hkind
      exact Roster.add_of_contains hfalse
    · rfl
  · intro htrue
    rw [hanswer, Bool.not_eq_true'] at htrue
    rw [← items_roster, hnext, dif_pos rfl, Roster.items_add_of_not_contains htrue, items_roster]
  · intro kind hkind
    have hsame : ((ofResources offered).offer resource).2.roster kind =
        (ofResources offered).roster kind := by
      rw [hnext, dif_neg (Ne.symm hkind)]
    rw [← items_roster, ← items_roster, ← names_roster, ← names_roster, ← contains_roster,
      ← contains_roster, hsame]
    exact ⟨rfl, rfl, rfl⟩

/-- However resources of four kinds are offered to an empty graph one after another, the graph has
of each kind the first resource of every name, and one more is taken exactly when its name is new
for its kind. -/
theorem firstOfEachName_ofResources (offered : List AnyResource) :
    (ofResources offered).Keeps offered ∧ ∀ resource, (ofResources offered).Admits offered resource
      ((ofResources offered).offer resource).1 ((ofResources offered).offer resource).2 :=
  ⟨keeps_offered offered, admits_offer offered⟩

end Graph

end GatewayCompiler
