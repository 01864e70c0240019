import GatewayCompiler.Proofs.Failure
import GatewayCompiler.Proofs.Table
import GatewayCompiler.Snapshot
import Mathlib.Data.List.Induction

/-!
# Snapshots as what is found in them

A snapshot is known by the object that it has of each identity.  Objects are put into it one after
another, each in place of an earlier one of its identity, so of each identity the last one is found.
-/

namespace GatewayCompiler

/-- What tells objects apart: namespaces their names, other objects their kinds and keys. -/
inductive ObjectIdentity where
  | ns (name : String)
  | gateway (key : ObjectKey)
  | httpRoute (key : ObjectKey)
  | service (key : ObjectKey)
  | secret (key : ObjectKey)
  | referenceGrant (key : ObjectKey)
  deriving DecidableEq

def ApiObject.identity : ApiObject → ObjectIdentity
  | .ns o => .ns o.name
  | .gateway o => .gateway o.key
  | .httpRoute o => .httpRoute o.key
  | .service o => .service o.key
  | .secret o => .secret o.key
  | .referenceGrant o => .referenceGrant o.key

namespace Catalog

variable {κ α : Type} [Ord κ] [Std.TransOrd κ] [Std.LawfulEqOrd κ] [DecidableEq κ] {keyOf : α → κ}
  {catalog : Catalog keyOf} {object : α}

theorem get?_put (key : κ) : (catalog.put object).get? key =
    if keyOf object = key then some object else catalog.get? key := by
  split
  · rename_i hkey
    rw [← hkey]
    exact Table.get?_insert_self catalog.toTable _ object
  · rename_i hkey
    exact Table.get?_insert_of_ne hkey

omit [DecidableEq κ] in
/-- An object of a new key is listed between the others. -/
theorem filter_values_put {p : α → Bool} (hnew : catalog.get? (keyOf object) = none)
    (hobject : p object = false) :
    (catalog.put object).values.filter p = catalog.values.filter p := by
  have hentries : ∀ entry ∈ catalog.entries, compare (keyOf object) entry.1 ≠ .eq := by
    rintro ⟨key, value⟩ hentry heq
    rw [Std.compare_eq_iff_eq] at heq
    rw [heq, Table.get?_of_mem hentry] at hnew
    cases hnew
  have hfilter : (Table.insertEntry (keyOf object) object catalog.entries).filter (fun e => p e.2) =
      catalog.entries.filter fun e => p e.2 := Table.filter_insertEntry hentries hobject
  change ((Table.insertEntry (keyOf object) object catalog.entries).map (·.2)).filter p = _
  rw [Table.values, List.filter_map, List.filter_map]
  exact congrArg _ hfilter

omit [DecidableEq κ] in
theorem eq_of_map_get? {a b : Catalog keyOf} {kind : α → ApiObject} (hkind : kind.Injective)
    (h : ∀ key, (a.get? key).map kind = (b.get? key).map kind) : a = b :=
  Catalog.ext (Table.ext_get? fun key => Option.map_injective hkind (h key))

end Catalog

namespace Snapshot

variable {s t : Snapshot}

/-- The object of an identity. -/
def object? (snapshot : Snapshot) : ObjectIdentity → Option ApiObject
  | .ns name => (snapshot.namespace? name).map .ns
  | .gateway key => (snapshot.gateway? key).map .gateway
  | .httpRoute key => (snapshot.httpRoutes.get? key).map .httpRoute
  | .service key => (snapshot.service? key).map .service
  | .secret key => (snapshot.secret? key).map .secret
  | .referenceGrant key => (snapshot.referenceGrants.get? key).map .referenceGrant

theorem object?_insert (object : ApiObject) (identity : ObjectIdentity) :
    (s.insert object).object? identity =
      if object.identity = identity then some object else s.object? identity := by
  -- Only an identity of the kind of the object is looked for where the object is put.
  cases object <;> cases identity <;>
    simp only [object?, insert, namespace?, gateway?, service?, secret?, ApiObject.identity,
      Catalog.get?_put, reduceCtorEq, if_false, ObjectIdentity.ns.injEq,
      ObjectIdentity.gateway.injEq, ObjectIdentity.httpRoute.injEq, ObjectIdentity.service.injEq,
      ObjectIdentity.secret.injEq, ObjectIdentity.referenceGrant.injEq, apply_ite (Option.map _),
      Option.map_some]

/-- Snapshots in which the same is found are the same. -/
theorem ext_object? (h : ∀ identity, s.object? identity = t.object? identity) : s = t := by
  obtain ⟨namespaces, gateways, httpRoutes, services, secrets, referenceGrants⟩ := s
  obtain ⟨namespaces', gateways', httpRoutes', services', secrets', referenceGrants'⟩ := t
  rw [Snapshot.mk.injEq]
  refine ⟨?_, ?_, ?_, ?_, ?_, ?_⟩
  · exact Catalog.eq_of_map_get? (fun _ _ => ApiObject.ns.inj) fun name => h (.ns name)
  · exact Catalog.eq_of_map_get? (fun _ _ => ApiObject.gateway.inj) fun key => h (.gateway key)
  · exact Catalog.eq_of_map_get? (fun _ _ => ApiObject.httpRoute.inj) fun key => h (.httpRoute key)
  · exact Catalog.eq_of_map_get? (fun _ _ => ApiObject.service.inj) fun key => h (.service key)
  · exact Catalog.eq_of_map_get? (fun _ _ => ApiObject.secret.inj) fun key => h (.secret key)
  · exact Catalog.eq_of_map_get? (fun _ _ => ApiObject.referenceGrant.inj) fun key =>
      h (.referenceGrant key)

/-- Of each identity, the last object that was put is found. -/
theorem object?_foldl_insert (objects : List ApiObject) (identity : ObjectIdentity) :
    (objects.foldl insert s).object? identity =
      ((objects.filter (·.identity = identity)).getLast?).or (s.object? identity) := by
  induction objects using List.reverseRecOn with
  | nil => rfl
  | append_singleton objects object ih =>
      rw [List.foldl_append, List.foldl_cons, List.foldl_nil, object?_insert, ih,
        List.filter_append]
      by_cases hidentity : object.identity = identity <;> simp [hidentity]

theorem outcome_putAll (objects : List ApiObject) :
    (s.putAll objects).outcome = .ok (objects.foldl insert s) := by
  rw [putAll, Report.outcome_foldlM]
  induction objects generalizing s with
  | nil => rfl
  | cons object objects ih => exact ih

/-- Objects give the same snapshot when of each identity the last ones are the same. -/
theorem outcome_ofObjects_congr {objects objects' : List ApiObject}
    (h : ∀ identity, (objects.filter (·.identity = identity)).getLast? =
      (objects'.filter (·.identity = identity)).getLast?) :
    (ofObjects objects).outcome = (ofObjects objects').outcome := by
  rw [ofObjects, ofObjects, outcome_putAll, outcome_putAll, Except.ok.injEq]
  apply ext_object?
  intro identity
  rw [object?_foldl_insert, object?_foldl_insert, h]

end Snapshot

end GatewayCompiler
