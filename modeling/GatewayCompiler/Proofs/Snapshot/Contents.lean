import GatewayCompiler.Proofs.FirstSeen
import GatewayCompiler.Proofs.Snapshot

/-!
# Contents of a snapshot

Objects of six kinds are put into a snapshot in any interleaving.  Of every identity it has the last
object; its listings, its size and the notices that were given tell the same.
-/

namespace GatewayCompiler

/-- The order of listings: by namespace, then by name. -/
def ObjectKey.IsBefore (a b : ObjectKey) : Prop :=
  a.ns < b.ns ∨ a.ns = b.ns ∧ a.name < b.name

theorem ObjectKey.compare_eq_lt_iff {a b : ObjectKey} : compare a b = .lt ↔ a.IsBefore b := by
  have htext : ∀ first second : String, compare first second = .lt ↔ first < second :=
    fun _ _ => compareOfLessAndEq_eq_lt
  change (compareOn ns a b).then (compareOn name a b) = .lt ↔ _
  simp only [Ordering.then_eq_lt, compareOn, htext, Std.compare_eq_iff_eq, IsBefore]

namespace ObjectIdentity

def kind : ObjectIdentity → String
  | .ns _ => "Namespace"
  | .gateway _ => "Gateway"
  | .httpRoute _ => "HTTPRoute"
  | .service _ => "Service"
  | .secret _ => "Secret"
  | .referenceGrant _ => "ReferenceGrant"

/-- The notice that an object of this identity was replaced. -/
def replaced : ObjectIdentity → Notice
  | .ns name => .namespaceReplaced name
  | .gateway key => .objectReplaced "Gateway" key
  | .httpRoute key => .objectReplaced "HTTPRoute" key
  | .service key => .objectReplaced "Service" key
  | .secret key => .objectReplaced "Secret" key
  | .referenceGrant key => .objectReplaced "ReferenceGrant" key

theorem message_replaced (identity : ObjectIdentity) :
    identity.replaced.message = "Duplicate object replaced" := by
  cases identity <;> rfl

end ObjectIdentity

theorem ApiObject.kind_identity (object : ApiObject) : object.identity.kind = object.kind := by
  cases object <;> rfl

theorem Catalog.size_put {κ α : Type} [Ord κ] [Std.TransOrd κ] {keyOf : α → κ}
    (catalog : Catalog keyOf) (object : α) : (catalog.put object).size =
      if (catalog.get? (keyOf object)).isSome then catalog.size else catalog.size + 1 :=
  Table.size_insert catalog.toTable (keyOf object) object

namespace Snapshot

variable {s : Snapshot}

/-- An object is noted exactly when there is one of its identity. -/
theorem replacement_eq (object : ApiObject) : s.replacement object =
    if (s.object? object.identity).isSome then [object.identity.replaced] else [] := by
  cases object <;> simp only [object?, ApiObject.identity, Option.isSome_map] <;> rfl

/-- And exactly then it takes no place of its own. -/
theorem size_insert (object : ApiObject) : (s.insert object).size =
    if (s.object? object.identity).isSome then s.size else s.size + 1 := by
  cases object <;>
    simp only [insert, size, Catalog.size_put, object?, namespace?, gateway?,
      service?, secret?, ApiObject.identity, Option.isSome_map] <;>
    split_ifs <;> omega

/-- An object is put in place of one of its identity, with one notice, or beside the others. -/
theorem put_cases (s : Snapshot) (object : ApiObject) :
    (s.object? object.identity = none ∧ s.put object = ⟨[], .ok (s.insert object)⟩ ∧
      (s.insert object).size = s.size + 1) ∨
    ((s.object? object.identity).isSome ∧
      s.put object = ⟨[object.identity.replaced], .ok (s.insert object)⟩ ∧
      (s.insert object).size = s.size) := by
  rw [put, replacement_eq, size_insert]
  cases h : s.object? object.identity with
  | none => exact .inl ⟨rfl, rfl, rfl⟩
  | some earlier => exact .inr ⟨rfl, rfl, rfl⟩

/-- One kind of object is nothing to the others. -/
theorem object?_insert_of_kind_ne {object : ApiObject} {identity : ObjectIdentity}
    (h : identity.kind ≠ object.kind) :
    (s.insert object).object? identity = s.object? identity := by
  rw [object?_insert, if_neg]
  rintro rfl
  exact h object.kind_identity

theorem putAll_concat {notices : List Notice} {t : Snapshot} {objects : List ApiObject}
    (h : s.putAll objects = ⟨notices, .ok t⟩) (object : ApiObject) :
    s.putAll (objects ++ [object]) =
      ⟨notices ++ (t.put object).notices, .ok (t.insert object)⟩ := by
  rw [putAll, List.foldlM_append, ← putAll, h, Report.mk_ok_bind, List.foldlM_cons]
  change Report.mk (notices ++ ((t.put object).notices ++ [])) _ = _
  rw [List.append_nil]
  rfl

/-- Every insert is worth a place or a notice. -/
theorem exists_notices_of_putAll (objects : List ApiObject) (s : Snapshot) :
    ∃ notices, s.putAll objects = ⟨notices, .ok (objects.foldl insert s)⟩ ∧
      notices.length + (objects.foldl insert s).size = objects.length + s.size ∧
      ∀ notice ∈ notices, ∃ object ∈ objects, notice = object.identity.replaced := by
  induction objects using List.reverseRecOn with
  | nil => exact ⟨[], rfl, rfl, List.forall_mem_nil _⟩
  | append_singleton objects object ih =>
      obtain ⟨notices, hrun, hlength, hnotices⟩ := ih
      have hnext := putAll_concat hrun object
      have hearlier : ∀ notice ∈ notices, ∃ object' ∈ objects ++ [object],
          notice = object'.identity.replaced := by
        intro notice hnotice
        obtain ⟨object', hobject', hreplaced⟩ := hnotices notice hnotice
        exact ⟨object', List.mem_append_left _ hobject', hreplaced⟩
      rw [List.foldl_append, List.foldl_cons, List.foldl_nil, List.length_append,
        List.length_singleton]
      obtain ⟨_, hfresh, hsize⟩ | ⟨_, hreplaced, hsize⟩ := put_cases (objects.foldl insert s) object
      · rw [hfresh] at hnext
        refine ⟨notices ++ [], hnext, ?_, ?_⟩
        · rw [List.append_nil, hsize]
          omega
        · rw [List.append_nil]
          exact hearlier
      · rw [hreplaced] at hnext
        refine ⟨notices ++ [object.identity.replaced], hnext, ?_, ?_⟩
        · rw [List.length_append, List.length_singleton, hsize]
          omega
        · exact List.forall_mem_append.2 ⟨hearlier, List.forall_mem_singleton.2
            ⟨object, List.mem_append_right _ (List.mem_singleton_self _), rfl⟩⟩

/-- The last object of an identity. -/
def lastOf (objects : List ApiObject) (identity : ObjectIdentity) : Option ApiObject :=
  (objects.filter (·.identity = identity)).getLast?

variable {objects : List ApiObject}

theorem object?_ofObjects (objects : List ApiObject) (identity : ObjectIdentity) :
    (objects.foldl insert ∅).object? identity = lastOf objects identity := by
  have hempty : (∅ : Snapshot).object? identity = none := by
    cases identity <;> rfl
  rw [object?_foldl_insert, hempty, Option.or_none, lastOf]

theorem isSome_object?_iff {identity : ObjectIdentity} :
    ((objects.foldl insert ∅).object? identity).isSome ↔ identity ∈ objects.map (·.identity) := by
  rw [object?_ofObjects, lastOf, List.getLast?_isSome, Ne, List.filter_eq_nil_iff]
  simp

/-- There are as many objects as different identities. -/
theorem size_foldl_insert (objects : List ApiObject) :
    (objects.foldl insert ∅).size = (objects.map (·.identity)).eraseDups.length := by
  induction objects using List.reverseRecOn with
  | nil => rfl
  | append_singleton objects object ih =>
      rw [List.foldl_append, List.foldl_cons, List.foldl_nil, size_insert, List.map_append,
        List.map_singleton, eraseDups_concat, ih]
      simp only [isSome_object?_iff]
      split
      · rfl
      · rw [List.length_append, List.length_singleton]

/-- A listing has the last object of every identity of its kind, once, in the order of keys. -/
structure Lists {α : Type} (keyOf : α → ObjectKey) (kind : α → ApiObject)
    (objects : List ApiObject) (listed : List α) : Prop where
  ascending : listed.Pairwise fun a b => (keyOf a).IsBefore (keyOf b)
  mem_iff : ∀ object, object ∈ listed ↔ lastOf objects (kind object).identity = some (kind object)

theorem lists_values {α : Type} {keyOf : α → ObjectKey} {kind : α → ApiObject}
    (catalog : Catalog keyOf) (hkind : kind.Injective)
    (hfound : ∀ object, (catalog.get? (keyOf object)).map kind =
      lastOf objects (kind object).identity) : Lists keyOf kind objects catalog.values where
  ascending := by
    simpa only [ObjectKey.compare_eq_lt_iff] using catalog.pairwise_values
  mem_iff object := by
    rw [Catalog.mem_values_iff, ← hfound, ← Option.map_some, (Option.map_injective hkind).eq_iff]

/-- What a snapshot is that these objects were put into. -/
structure Stores (snapshot : Snapshot) (objects : List ApiObject) : Prop where
  /-- Of every kind and identity the last object is found, whatever came of other kinds. -/
  object?_eq : ∀ identity, snapshot.object? identity = lastOf objects identity
  routes : Lists HttpRoute.key .httpRoute objects snapshot.routes
  routesIn_eq : ∀ ns, snapshot.routesIn ns = snapshot.routes.filter (·.key.ns = ns)
  grants : Lists ReferenceGrant.key .referenceGrant objects snapshot.referenceGrants.values
  grantsIn_eq : ∀ ns,
    snapshot.grantsIn ns = snapshot.referenceGrants.values.filter (·.key.ns = ns)
  size_eq : snapshot.size = (objects.map (·.identity)).eraseDups.length

/-- What comes of putting one more object: what is noted and the next snapshot. -/
structure Takes (snapshot : Snapshot) (objects : List ApiObject) (object : ApiObject)
    (notices : List Notice) (next : Snapshot) : Prop where
  fresh : object.identity ∉ objects.map (·.identity) →
    notices = [] ∧ next.size = snapshot.size + 1
  replaced : object.identity ∈ objects.map (·.identity) →
    notices = [object.identity.replaced] ∧ next.size = snapshot.size
  others : ∀ identity, identity.kind ≠ object.kind →
    next.object? identity = snapshot.object? identity
  routes : object.kind ≠ "HTTPRoute" → next.routes = snapshot.routes
  grants : object.kind ≠ "ReferenceGrant" →
    next.referenceGrants.values = snapshot.referenceGrants.values

theorem stores_foldl_insert (objects : List ApiObject) :
    (objects.foldl insert ∅).Stores objects where
  object?_eq := object?_ofObjects objects
  routes := lists_values _ (fun _ _ => ApiObject.httpRoute.inj) fun route =>
    object?_ofObjects objects (.httpRoute route.key)
  routesIn_eq ns := by
    simp [routesIn, routes, Catalog.inNamespace, beq_eq_decide]
  grants := lists_values _ (fun _ _ => ApiObject.referenceGrant.inj) fun grant =>
    object?_ofObjects objects (.referenceGrant grant.key)
  grantsIn_eq ns := by
    simp [grantsIn, Catalog.inNamespace, beq_eq_decide]
  size_eq := size_foldl_insert objects

theorem takes_put (objects : List ApiObject) (object : ApiObject) :
    (objects.foldl insert ∅).Takes objects object ((objects.foldl insert ∅).put object).notices
      ((objects.foldl insert ∅).insert object) where
  fresh hfresh := by
    rw [← isSome_object?_iff] at hfresh
    obtain ⟨_, hput, hsize⟩ | ⟨hsome, _⟩ := put_cases (objects.foldl insert ∅) object
    · exact ⟨by rw [hput], hsize⟩
    · exact absurd hsome hfresh
  replaced hreplaced := by
    rw [← isSome_object?_iff] at hreplaced
    obtain ⟨hnone, _⟩ | ⟨_, hput, hsize⟩ := put_cases (objects.foldl insert ∅) object
    · rw [hnone] at hreplaced
      cases hreplaced
    · exact ⟨by rw [hput], hsize⟩
  others _ := object?_insert_of_kind_ne
  routes hkind := by
    cases object <;> first | rfl | exact absurd rfl hkind
  grants hkind := by
    cases object <;> first | rfl | exact absurd rfl hkind

/-- However objects of six kinds are put into an empty snapshot one after another, the snapshot has
the last object of every identity, and each object was worth either a place of its own or a notice
that it replaced another. -/
theorem stores_ofObjects (objects : List ApiObject) :
    ∃ notices snapshot, ofObjects objects = ⟨notices, .ok snapshot⟩ ∧
      snapshot.Stores objects ∧
      (∀ notice ∈ notices, notice.message = "Duplicate object replaced") ∧
      notices.length + snapshot.size = objects.length ∧
      ∀ object, ∃ more next, snapshot.put object = ⟨more, .ok next⟩ ∧
        ofObjects (objects ++ [object]) = ⟨notices ++ more, .ok next⟩ ∧
        snapshot.Takes objects object more next := by
  obtain ⟨notices, hrun, hlength, hnotices⟩ := exists_notices_of_putAll objects ∅
  refine ⟨notices, _, hrun, stores_foldl_insert objects, ?_, hlength, ?_⟩
  · intro notice hnotice
    obtain ⟨object, _, rfl⟩ := hnotices notice hnotice
    exact object.identity.message_replaced
  · intro object
    exact ⟨_, _, rfl, putAll_concat hrun object, takes_put objects object⟩

end Snapshot

end GatewayCompiler
