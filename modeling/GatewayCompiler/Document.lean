import GatewayCompiler.Base64
import GatewayCompiler.Graph
import GatewayCompiler.Json.Printer
import GatewayCompiler.Schema.Reader
import GatewayCompiler.Schema.Writer

/-!
# The output document

A document holds the resources of a graph by the URL of their type, each as Base64 of its bytes, under
a version.
-/

namespace GatewayCompiler

open Schema

structure DocumentEntry where
  name : String
  typeUrl : String
  value : String
  deriving DecidableEq, Repr

structure Document where
  version : String
  resources : Table String (List DocumentEntry)
  deriving DecidableEq, Repr

namespace DocumentEntry

def ofEncoded (resource : EncodedResource) : DocumentEntry :=
  ⟨resource.name, resource.kind.typeUrl, Base64.encode resource.bytes⟩

def reader : Reader DocumentEntry :=
  Record.reader "OutputResource" <| DocumentEntry.mk
    <$> .required "name" Reader.string
    <*> .required "typeUrl" Reader.string
    <*> .required "value" Reader.string

/-- The fields in the order in which a document shows them, which is also their ascending order. -/
def toJson (entry : DocumentEntry) : Json :=
  .object [
    ("name", .string entry.name),
    ("typeUrl", .string entry.typeUrl),
    ("value", .string entry.value)]

end DocumentEntry

namespace Document

/-- The document of a graph has an entry for each kind, also for one without resources. -/
def ofGraph (version : String) (graph : Graph) : Document :=
  ⟨version, Table.ofList <| graph.resourceMap.map fun (kind, resources) =>
    (kind.typeUrl, resources.map DocumentEntry.ofEncoded)⟩

def resourceCount (document : Document) : Nat :=
  document.resources.values.flatten.length

def reader : Reader Document :=
  Record.reader "OutputDocument" <| Document.mk
    <$> .required "version" Reader.string
    <*> .required "resources" (Reader.table (Reader.list DocumentEntry.reader))

def resourcesToJson (document : Document) : Json :=
  .object (document.resources.entries.map fun (typeUrl, entries) =>
    (typeUrl, Writer.list DocumentEntry.toJson entries))

def toJson (document : Document) : Json :=
  .ofFields [("resources", document.resourcesToJson), ("version", .string document.version)]

/-- The text of a document, where the version comes first. -/
def text (document : Document) : String :=
  Json.indented (.object [
    ("version", .string document.version),
    ("resources", document.resourcesToJson)])

end Document

end GatewayCompiler
