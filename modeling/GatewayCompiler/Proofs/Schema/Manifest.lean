import GatewayCompiler.Manifest
import GatewayCompiler.Proofs.Schema.Core
import GatewayCompiler.Proofs.Schema.Gateway
import GatewayCompiler.Proofs.Schema.HttpRoute

/-!
# Objects read back from manifests

An object that is written with its kind is what a manifest holds of it.  Read again it is the same
object, in the default namespace if it is of a namespaced kind and was in none.
-/

namespace GatewayCompiler

open Schema

/-- The object with one more field. -/
def Json.withField (json : Json) (key : String) (value : Json) : Json :=
  match json with
  | .object fields => .object (insertField key value fields)
  | json => json

theorem Json.withField_ofFields (fields : List (String × Json)) (key : String) (value : Json) :
    (ofFields fields).withField key value = ofFields (fields ++ [(key, value)]) := by
  rw [ofFields, ofFields, List.foldl_append]
  rfl

theorem Json.field?_ofFields (fields : List (String × Json)) (name : String) :
    (ofFields fields).field? name = written fields name := by
  obtain ⟨stored, hstored, _, hlookup⟩ := exists_ofFields fields
  rw [hstored, field?, hlookup]

namespace Metadata

/-- There is no namespace, or an empty one. -/
def lacksNamespace (metadata : Metadata) : Bool :=
  metadata.ns.all (· = "")

def inNamespace (metadata : Metadata) (ns : String) : Metadata :=
  { metadata with ns := some ns }

theorem withNamespace_eq (metadata : Metadata) : metadata.withNamespace =
    if metadata.lacksNamespace then metadata.inNamespace defaultNamespace else metadata := by
  obtain ⟨name, _ | ns, labels⟩ := metadata
  · rfl
  · by_cases hempty : ns = "" <;>
      simp [withNamespace, lacksNamespace, inNamespace, Option.filter_some, hempty]

end Metadata

namespace ApiObject

/-- The object with its kind, as a manifest holds it. -/
def manifest (object : ApiObject) : Json :=
  object.toJson.withField "kind" (.string object.kind)

/-- An object of a namespaced kind that gives no namespace, or an empty one. -/
def lacksNamespace : ApiObject → Bool
  | .ns _ => false
  | .gateway o => o.metadata.lacksNamespace
  | .httpRoute o => o.metadata.lacksNamespace
  | .service o => o.metadata.lacksNamespace
  | .secret o => o.metadata.lacksNamespace
  | .referenceGrant o => o.metadata.lacksNamespace

/-- The object of a namespaced kind in this namespace. -/
def inNamespace (ns : String) : ApiObject → ApiObject
  | .ns o => .ns o
  | .gateway o => .gateway { o with metadata := o.metadata.inNamespace ns }
  | .httpRoute o => .httpRoute { o with metadata := o.metadata.inNamespace ns }
  | .service o => .service { o with metadata := o.metadata.inNamespace ns }
  | .secret o => .secret { o with metadata := o.metadata.inNamespace ns }
  | .referenceGrant o => .referenceGrant { o with metadata := o.metadata.inNamespace ns }

/-- What reading makes of an object. -/
def withNamespace : ApiObject → ApiObject
  | .ns o => .ns o
  | .gateway o => .gateway { o with metadata := o.metadata.withNamespace }
  | .httpRoute o => .httpRoute { o with metadata := o.metadata.withNamespace }
  | .service o => .service { o with metadata := o.metadata.withNamespace }
  | .secret o => .secret { o with metadata := o.metadata.withNamespace }
  | .referenceGrant o => .referenceGrant { o with metadata := o.metadata.withNamespace }

theorem withNamespace_eq (object : ApiObject) : object.withNamespace =
    if object.lacksNamespace then object.inNamespace defaultNamespace else object := by
  split
  · rename_i hlacks
    cases object <;>
      simp_all [withNamespace, inNamespace, lacksNamespace, Metadata.withNamespace_eq]
  · rename_i hgives
    cases object <;> simp_all [withNamespace, lacksNamespace, Metadata.withNamespace_eq]

theorem field?_manifest (object : ApiObject) :
    object.manifest.field? "kind" = some (.string object.kind) := by
  have hfields : ∃ fields, object.toJson = .ofFields fields := by
    cases object <;> exact ⟨_, rfl⟩
  obtain ⟨fields, hfields⟩ := hfields
  rw [manifest, hfields, Json.withField_ofFields, Json.field?_ofFields]
  simp

end ApiObject

section WithKind

variable (kind : Json)

theorem Namespace.reader_withField (object : Namespace) :
    Namespace.reader (object.toJson.withField "kind" kind) = .ok object := by
  rw [toJson, Json.withField_ofFields]
  exact ((Reads.required Metadata.roundTrips (by simp)).map Namespace.mk).reader_ofFields _

theorem Gateway.specRoundTrips : RoundTrips
    (fun spec : String × List Listener => .ofFields [
      ("gatewayClassName", .string spec.1),
      ("listeners", Writer.list Listener.toJson spec.2)]) Gateway.specReader :=
  .record fun _ =>
    (Reads.withDefault .string (by simp)).map Prod.mk
      |>.seq (.list Listener.roundTrips (by simp))

theorem Gateway.reader_withField (gateway : Gateway) :
    Gateway.reader (gateway.toJson.withField "kind" kind) = .ok gateway := by
  rw [toJson, Json.withField_ofFields]
  exact ((Reads.required Metadata.roundTrips (by simp)).map _
    |>.seq (.required specRoundTrips (by simp) : Reads _ _ (gateway.className, gateway.listeners))
    |>.reader_ofFields _)

theorem HttpRoute.specRoundTrips : RoundTrips
    (fun spec : List ParentRef × List String × List RouteRule => .ofFields [
      ("parentRefs", Writer.list ParentRef.toJson spec.1),
      ("hostnames", Writer.list .string spec.2.1),
      ("rules", Writer.list RouteRule.toJson spec.2.2)]) HttpRoute.specReader :=
  .record fun _ =>
    (Reads.list ParentRef.roundTrips (by simp)).map _
      |>.seq (.list .string (by simp))
      |>.seq (.list RouteRule.roundTrips (by simp))

theorem HttpRoute.reader_withField (route : HttpRoute) :
    HttpRoute.reader (route.toJson.withField "kind" kind) = .ok route := by
  rw [toJson, Json.withField_ofFields]
  exact ((Reads.required Metadata.roundTrips (by simp)).map _
    |>.seq (.withDefault specRoundTrips (by simp) :
      Reads _ _ (route.parentRefs, route.hostnames, route.rules))
    |>.reader_ofFields _)

theorem Service.specRoundTrips : RoundTrips
    (fun spec : Option String × List ServicePort => .ofFields <|
      Writer.fieldIfSome "clusterIP" (spec.1.map .string) ++
      Writer.field "ports" (Writer.list ServicePort.toJson spec.2)) Service.specReader :=
  .record fun _ =>
    (Reads.ifSome .string (by simp)).map Prod.mk
      |>.seq (.list ServicePort.roundTrips (by simp))

theorem Service.reader_withField (service : Service) :
    Service.reader (service.toJson.withField "kind" kind) = .ok service := by
  rw [toJson, Json.withField_ofFields]
  exact ((Reads.required Metadata.roundTrips (by simp)).map _
    |>.seq (.withDefault specRoundTrips (by simp) : Reads _ _ (service.clusterIP, service.ports))
    |>.reader_ofFields _)

theorem Secret.reader_withField (secret : Secret) :
    Secret.reader (secret.toJson.withField "kind" kind) = .ok secret := by
  rw [toJson, Json.withField_ofFields]
  exact ((Reads.required Metadata.roundTrips (by simp)).map Secret.mk
    |>.seq (.ifSome .string (by simp))
    |>.seq (.withDefault .stringTable (by simp))
    |>.reader_ofFields _)

theorem ReferenceGrant.specRoundTrips : RoundTrips
    (fun spec : List GrantSource × List GrantTarget => .ofFields [
      ("from", Writer.list GrantSource.toJson spec.1),
      ("to", Writer.list GrantTarget.toJson spec.2)]) ReferenceGrant.specReader :=
  .record fun _ =>
    (Reads.list GrantSource.roundTrips (by simp)).map Prod.mk
      |>.seq (.list GrantTarget.roundTrips (by simp))

theorem ReferenceGrant.reader_withField (grant : ReferenceGrant) :
    ReferenceGrant.reader (grant.toJson.withField "kind" kind) = .ok grant := by
  rw [toJson, Json.withField_ofFields]
  exact ((Reads.required Metadata.roundTrips (by simp)).map _
    |>.seq (.withDefault specRoundTrips (by simp) : Reads _ _ (grant.sources, grant.targets))
    |>.reader_ofFields _)

end WithKind

namespace Manifest

variable (source : String)

theorem readAs_bind_of_ok {α β : Type} {reader : Reader α} {json : Json} {value : α}
    (kind : String) (h : reader json = .ok value) (f : α → Except Fault β) :
    readAs source kind reader json >>= f = f value := by
  rw [readAs, h, ok_bind]

theorem readObject_manifest (object : ApiObject) :
    readObject source object.kind object.manifest = .ok (some object.withNamespace) := by
  cases object with
  | ns o => exact readAs_bind_of_ok source _ (o.reader_withField _) _
  | gateway o => exact readAs_bind_of_ok source _ (o.reader_withField _) _
  | httpRoute o => exact readAs_bind_of_ok source _ (o.reader_withField _) _
  | service o => exact readAs_bind_of_ok source _ (o.reader_withField _) _
  | secret o => exact readAs_bind_of_ok source _ (o.reader_withField _) _
  | referenceGrant o => exact readAs_bind_of_ok source _ (o.reader_withField _) _

/-- Every object is read back from a manifest that holds it with its kind, and nothing else is; one
of a namespaced kind that gives no namespace is then in the default one. -/
theorem readValue_manifest (object : ApiObject) :
    readValue source object.manifest = .ok
      [if object.lacksNamespace then object.inNamespace defaultNamespace else object] := by
  have hkind : kindOf source object.manifest = .ok object.kind := by
    rw [kindOf, object.field?_manifest]
    rfl
  have hsingle : object.kind ≠ "List" := by
    cases object <;> simp [ApiObject.kind]
  rw [readValue, hkind, ok_bind, if_neg hsingle, readObject_manifest, ok_bind,
    ApiObject.withNamespace_eq]
  rfl

end Manifest

end GatewayCompiler
