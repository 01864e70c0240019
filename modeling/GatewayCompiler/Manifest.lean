import GatewayCompiler.Fault
import GatewayCompiler.Schema.ApiObject
import GatewayCompiler.Yaml.Document

/-!
# Manifests

A manifest is a text of documents, each of which is an object or a list of objects, and lists may
hold lists.  Objects of kinds that no translation reads are passed over.  A namespaced object that
gives no namespace is in the default one.
-/

namespace GatewayCompiler

open Schema

/-- The metadata of a namespaced object, with its namespace filled in. -/
def Metadata.withNamespace (metadata : Metadata) : Metadata :=
  match metadata.ns.filter (· ≠ "") with
  | some _ => metadata
  | none => { metadata with ns := some defaultNamespace }

namespace Manifest

/-- How a fault names an object that it cannot read. -/
def nameOf (json : Json) : String :=
  ((json.field? "metadata").bind (·.field? "name")).bind Json.string? |>.getD "<unnamed>"

def readAs {α : Type} (source kind : String) (reader : Reader α) (json : Json) : Except Fault α :=
  match reader json with
  | .ok value => .ok value
  | .error e => .error (.manifest source s!"{kind} {nameOf json}: {e.message}")

/-- The object of a kind, if translations read that kind. -/
def readObject (source kind : String) (json : Json) : Except Fault (Option ApiObject) :=
  match kind with
  | "Namespace" => do
    return some (.ns (← readAs source kind Namespace.reader json))
  | "Gateway" => do
    let gateway ← readAs source kind Gateway.reader json
    return some (.gateway { gateway with metadata := gateway.metadata.withNamespace })
  | "HTTPRoute" => do
    let route ← readAs source kind HttpRoute.reader json
    return some (.httpRoute { route with metadata := route.metadata.withNamespace })
  | "Service" => do
    let service ← readAs source kind Service.reader json
    return some (.service { service with metadata := service.metadata.withNamespace })
  | "Secret" => do
    let secret ← readAs source kind Secret.reader json
    return some (.secret { secret with metadata := secret.metadata.withNamespace })
  | "ReferenceGrant" => do
    let grant ← readAs source kind ReferenceGrant.reader json
    return some (.referenceGrant { grant with metadata := grant.metadata.withNamespace })
  | _ => return none

/-- The kind that an object states. -/
def kindOf (source : String) (json : Json) : Except Fault String :=
  match (json.field? "kind").bind Json.string? with
  | some kind => .ok kind
  | none => .error (.manifest source "object without a 'kind'")

mutual

/-- The objects that a value holds, in order. -/
def readValue (source : String) (json : Json) : Except Fault (List ApiObject) := do
  let kind ← kindOf source json
  if kind = "List" then readList source json else return (← readObject source kind json).toList

/-- The objects of a list object. -/
def readList (source : String) : Json → Except Fault (List ApiObject)
  | .object fields => readItemsField source fields
  | _ => .ok []

/-- The objects under the field `items`, if there is one. -/
def readItemsField (source : String) : List (String × Json) → Except Fault (List ApiObject)
  | [] => .ok []
  | (name, value) :: rest =>
    if name = "items" then readItems source value else readItemsField source rest

def readItems (source : String) : Json → Except Fault (List ApiObject)
  | .array items => readValues source items
  | .null => .ok []
  | _ => .error (.manifest source "'items' of a List must be an array")

def readValues (source : String) : List Json → Except Fault (List ApiObject)
  | [] => .ok []
  | item :: rest => do
    let objects ← readValue source item
    return objects ++ (← readValues source rest)

end

/-- The objects of a document.  Of one with a fault, the place is told and not what a parser says of
the fault.  A null document holds nothing; a value that is null as JSON is no object. -/
def readDocument (source : String) (index : Nat) : Yaml.Document → Except Fault (List ApiObject)
  | .faulty => .error (.manifest source s!"document {index}")
  | .null => .ok []
  | .value json => readValue source json

/-- The objects of a text.  `source` stands for it in messages. -/
def parse (source text : String) : Except Fault (List ApiObject) := do
  let objects ← (Yaml.documents text).zipIdx.mapM fun (document, index) =>
    readDocument source index document
  return objects.flatten

end Manifest

end GatewayCompiler
