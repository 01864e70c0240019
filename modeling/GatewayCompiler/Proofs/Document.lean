import GatewayCompiler.Document
import GatewayCompiler.Proofs.Base64
import GatewayCompiler.Proofs.Json
import GatewayCompiler.Proofs.Table
import GatewayCompiler.Proofs.Wire.Cluster
import GatewayCompiler.Proofs.Wire.Listener
import Mathlib.Data.List.Forall2

/-!
# Documents

The document of a graph is faithful: under the type URL of each kind it lists the resources of this
kind in their order, and each entry can be turned back into its very resource.  The text of a
document is faithful to the document, which is read back from it.
-/

namespace GatewayCompiler

namespace ResourceKind

def encode : (kind : ResourceKind) → kind.Resource → Wire.Bytes
  | listener => Envoy.Listener.encode
  | routeConfiguration => Envoy.RouteConfiguration.encode
  | cluster => Envoy.Cluster.encode
  | loadAssignment => Envoy.LoadAssignment.encode

def decode? : (kind : ResourceKind) → Wire.Bytes → Option kind.Resource
  | listener => Envoy.Listener.decode?
  | routeConfiguration => Envoy.RouteConfiguration.decode?
  | cluster => Envoy.Cluster.decode?
  | loadAssignment => Envoy.LoadAssignment.decode?

theorem decode?_encode (kind : ResourceKind) (resource : kind.Resource) :
    kind.decode? (kind.encode resource) = some resource := by
  cases kind with
  | listener => exact Envoy.Listener.decode?_encode resource
  | routeConfiguration => exact Envoy.RouteConfiguration.decode?_encode resource
  | cluster => exact Envoy.Cluster.decode?_encode resource
  | loadAssignment => exact Envoy.LoadAssignment.decode?_encode resource

theorem mem_all (kind : ResourceKind) : kind ∈ all := by
  cases kind <;> decide

theorem nodup_typeUrls : (all.map typeUrl).Nodup := by
  decide

end ResourceKind

/-- The resources of a kind, in the order they were added. -/
def Graph.resources (graph : Graph) : (kind : ResourceKind) → List kind.Resource
  | .listener => graph.listeners.items
  | .routeConfiguration => graph.routeConfigurations.items
  | .cluster => graph.clusters.items
  | .loadAssignment => graph.loadAssignments.items

theorem Graph.encoded_eq_map (graph : Graph) (kind : ResourceKind) :
    graph.encoded kind = (graph.resources kind).map fun resource =>
      ⟨kind.nameOf resource, kind, kind.encode resource⟩ := by
  cases kind <;> rfl

/-- An entry that stands for a resource: it has the name of the resource and the type URL of its
kind, and its value is Base64 of bytes that are decoded as the resource. -/
structure DocumentEntry.StandsFor {kind : ResourceKind} (entry : DocumentEntry)
    (resource : kind.Resource) : Prop where
  name_eq : entry.name = kind.nameOf resource
  typeUrl_eq : entry.typeUrl = kind.typeUrl
  decodes : ∃ bytes, Base64.decode entry.value = .ok bytes ∧ kind.decode? bytes = some resource

theorem DocumentEntry.standsFor_ofEncoded {kind : ResourceKind} (resource : kind.Resource) :
    (ofEncoded ⟨kind.nameOf resource, kind, kind.encode resource⟩).StandsFor resource where
  name_eq := rfl
  typeUrl_eq := rfl
  decodes := ⟨kind.encode resource, Base64.decode_encode _, kind.decode?_encode resource⟩

theorem Graph.forall₂_standsFor (graph : Graph) (kind : ResourceKind) :
    List.Forall₂ DocumentEntry.StandsFor ((graph.encoded kind).map DocumentEntry.ofEncoded)
      (graph.resources kind) := by
  rw [encoded_eq_map, List.map_map]
  apply List.forall₂_map_left_iff.2
  apply List.forall₂_same.2
  intro resource _
  exact DocumentEntry.standsFor_ofEncoded resource

namespace Document

/-- What a faithful document of a graph is: it has the version and just the type URLs of the kinds,
under each of these an entry for each resource of the kind in its place, and no others. -/
structure Presents (document : Document) (version : String) (graph : Graph) : Prop where
  version_eq : document.version = version
  keys : document.resources.keys.Perm (ResourceKind.all.map (·.typeUrl))
  entries : ∀ kind : ResourceKind, ∃ entries, document.resources.get? kind.typeUrl = some entries ∧
    List.Forall₂ DocumentEntry.StandsFor entries (graph.resources kind)
  count : document.resourceCount = graph.size

theorem perm_entries_ofGraph (version : String) (graph : Graph) :
    (ofGraph version graph).resources.entries.Perm
      (ResourceKind.all.map fun kind =>
        (kind.typeUrl, (graph.encoded kind).map DocumentEntry.ofEncoded)) := by
  apply Table.perm_ofList
  rw [List.map_map]
  exact ResourceKind.nodup_typeUrls

theorem get?_ofGraph (version : String) (graph : Graph) (kind : ResourceKind) :
    (ofGraph version graph).resources.get? kind.typeUrl =
      some ((graph.encoded kind).map DocumentEntry.ofEncoded) := by
  apply Table.get?_of_mem
  apply (perm_entries_ofGraph version graph).mem_iff.2
  exact List.mem_map.2 ⟨kind, kind.mem_all, rfl⟩

theorem keys_ofGraph (version : String) (graph : Graph) :
    (ofGraph version graph).resources.keys.Perm (ResourceKind.all.map (·.typeUrl)) := by
  have hkeys := (perm_entries_ofGraph version graph).map (·.1)
  rw [List.map_map] at hkeys
  exact hkeys

theorem resourceCount_ofGraph (version : String) (graph : Graph) :
    (ofGraph version graph).resourceCount = graph.size := by
  have hvalues := (perm_entries_ofGraph version graph).map (·.2)
  rw [List.map_map] at hvalues
  rw [resourceCount, Table.values, hvalues.flatten.length_eq]
  simp [ResourceKind.all, Graph.encoded, Graph.size, Roster.size]
  omega

theorem presents_ofGraph (version : String) (graph : Graph) :
    (ofGraph version graph).Presents version graph where
  version_eq := rfl
  keys := keys_ofGraph version graph
  entries := fun kind => ⟨_, get?_ofGraph version graph kind, graph.forall₂_standsFor kind⟩
  count := resourceCount_ofGraph version graph

end Document

/-! Texts -/

open Schema

namespace DocumentEntry

def fields (entry : DocumentEntry) : List (String × Json) :=
  [("name", .string entry.name), ("typeUrl", .string entry.typeUrl), ("value", .string entry.value)]

theorem ascending (entry : DocumentEntry) : entry.fields.Pairwise fun a b => a.1 < b.1 :=
  List.pairwise_map.1 (show ["name", "typeUrl", "value"].Pairwise (· < ·) by decide)

theorem toJson_eq_ofFields (entry : DocumentEntry) : entry.toJson = .ofFields entry.fields :=
  (Json.ofFields_of_ascending entry.ascending).symm

theorem roundTrips : RoundTrips DocumentEntry.toJson DocumentEntry.reader := by
  rw [funext toJson_eq_ofFields]
  exact .record fun _ =>
    (Reads.required .string (by simp [fields])).map DocumentEntry.mk
      |>.seq (.required .string (by simp [fields]))
      |>.seq (.required .string (by simp [fields]))

theorem isReadBack (entry : DocumentEntry) : entry.toJson.IsReadBack := by
  apply Json.IsReadBack.object entry.ascending
  simp [fields, Json.IsReadBack.string]

end DocumentEntry

namespace Document

/-- A text that is JSON and has the fields of this document. -/
def IsReadFrom (document : Document) (text : String) : Prop :=
  ∃ json, Json.parse? text = some json ∧ reader json = .ok document

theorem reader_ofFields (document : Document) : reader (.ofFields [
    ("version", .string document.version),
    ("resources", document.resourcesToJson)]) = .ok document :=
  ((Reads.required .string (by simp)).map Document.mk
    |>.seq (.required DocumentEntry.roundTrips.list.table (by simp; rfl))
    |>.reader_ofFields _)

theorem isReadBack_resources (document : Document) : document.resourcesToJson.IsReadBack := by
  apply Json.IsReadBack.object
  · apply List.pairwise_map.2
    apply document.resources.ascending.imp
    intro first second hlt
    exact compare_lt_iff_lt.1 hlt
  · intro field hfield
    obtain ⟨⟨typeUrl, entries⟩, _, rfl⟩ := List.mem_map.1 hfield
    apply Json.IsReadBack.array
    rw [List.forall_mem_map]
    exact fun entry _ => entry.isReadBack

/-- A document is read back from its text, also from one with blanks behind it. -/
theorem isReadFrom_text_append (document : Document) {blanks : String}
    (h : ∀ c ∈ blanks.toList, Json.isBlank c) :
    document.IsReadFrom (document.text ++ blanks) := by
  refine ⟨_, Json.parse?_indented_append ?_ h, document.reader_ofFields⟩
  simp [Json.IsReadBack.string, document.isReadBack_resources]

theorem isReadFrom_text (document : Document) : document.IsReadFrom document.text := by
  have hnone : ∀ c ∈ "".toList, Json.isBlank c := by simp
  have h := document.isReadFrom_text_append hnone
  rwa [String.append_empty] at h

theorem isReadFrom_text_newline (document : Document) :
    document.IsReadFrom (document.text ++ "\n") :=
  document.isReadFrom_text_append (by simp [Json.isBlank])

end Document

end GatewayCompiler
