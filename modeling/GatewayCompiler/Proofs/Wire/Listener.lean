import GatewayCompiler.Envoy.Wire.Listener
import GatewayCompiler.Proofs.Table
import GatewayCompiler.Proofs.Wire.Route

/-!
# Listeners read back

A listener is decoded from its bytes just as it was encoded, its metadata among them though they are
written out of their order.  So are the connection managers and TLS contexts that its chains carry.
-/

namespace GatewayCompiler.Envoy

open Wire

theorem FilterChain.reads (chain : FilterChain) :
    Reads FilterChain.ofFields? chain.fields chain := by
  have hnames (names : List String) : Reads (Read.strings 11) (Write.strings 11 names) names :=
    (IsPart.strings 11 names).reads (by decide) fun _ => id
  apply (IsPart.optional 1 chain.serverNames hnames
    |>.append (IsPart.repeated 3 chain.filters (Extension.reads (by decide)))
    |>.append (IsPart.optional 6 chain.transportSocket (Extension.reads (by decide)))
    |>.append (IsPart.string 7 chain.name)).reads (by decide)
  intro fields ⟨⟨⟨hnames, hfilters⟩, hsocket⟩, hname⟩
  simp [FilterChain.ofFields?, hnames, hfilters, hsocket, hname]

section Maps

variable {α β : Type} {read : Fields → Option β} {write : α → Fields} {default : β} {f : α → β}

theorem mapEntry_reads (hread : ∀ value, Reads read (write value) (f value))
    (hdefault : ∀ value, write value = [] → default = f value) (entry : String × α) :
    Reads (Read.mapEntry read default)
      (Write.string 1 entry.1 ++ Write.mapValue 2 (write entry.2)) (entry.1, f entry.2) := by
  apply ((IsPart.string 1 entry.1).append
    (IsPart.mapValue 2 (hread entry.2) (hdefault entry.2))).reads (by decide)
  intro fields ⟨hkey, hvalue⟩
  obtain ⟨value, hmessage, hvalue⟩ := Option.map_eq_some_iff.1 hvalue
  simp [Read.mapEntry, hkey, hmessage, hvalue]

/-- The entries of a map, in whatever order, are read as what is made of them. -/
theorem entries_isPart (hread : ∀ value, Reads read (write value) (f value))
    (hdefault : ∀ value, write value = [] → default = f value) (entries : List (String × α)) :
    IsPart [1] (entries.flatMap (Write.mapEntry 1 write)) fun fields =>
      (Read.repeated (Read.mapEntry read default) 1 fields).map Table.ofList =
        some (Table.ofList (entries.map fun entry => (entry.1, f entry.2))) := by
  apply (IsPart.repeatedAs 1 entries (mapEntry_reads hread hdefault)).imp
  intro fields hfields
  rw [hfields, Option.map_some]

/-- A map is read as the table it was written from. -/
theorem table_reads {read : Fields → Option α} {default : α}
    (hread : ∀ value, Reads read (write value) value)
    (hdefault : ∀ value, write value = [] → default = value) (table : Table String α) :
    Reads (fun fields => (Read.repeated (Read.mapEntry read default) 1 fields).map Table.ofList)
      (table.entries.flatMap (Write.mapEntry 1 write)) table := by
  apply (entries_isPart hread hdefault table.entries).reads (by decide)
  intro fields hfields
  rw [hfields, List.map_id', table.ofList_entries]

end Maps

/-- Only the empty map is written as no fields. -/
theorem FilterMetadata.eq_empty_of_valuesFields {values : Table String String}
    (h : FilterMetadata.valuesFields values = []) : ∅ = values := by
  apply Table.ext
  cases hentries : values.entries with
  | nil => rfl
  | cons entry entries => simp [valuesFields, hentries, Write.mapEntry, Write.message] at h

/-- A string is present in a map even when it is empty. -/
theorem FilterMetadata.text_reads (s : String) :
    Reads (Read.string 3) (Write.presentString 3 s) s := by
  have hvalid : Payload.IsValid (.bytes (Text.utf8 s)) := trivial
  exact (IsPart.presentScalar hvalid (Read.asString_utf8 s)).reads (by decide) fun _ => id

theorem FilterMetadata.reads (metadata : FilterMetadata) :
    Reads FilterMetadata.ofFields? metadata.fields metadata := by
  have hvalues (values : Table String String) :
      Reads FilterMetadata.valuesOfFields? (FilterMetadata.valuesFields values) values :=
    table_reads text_reads (fun s h => nomatch h) values
  exact table_reads hvalues (fun values => FilterMetadata.eq_empty_of_valuesFields) metadata

theorem Listener.reads (listener : Listener) :
    Reads Listener.ofFields? listener.fields listener := by
  apply (IsPart.string 1 listener.name
    |>.append (IsPart.optional 2 listener.address SocketAddress.reads)
    |>.append (IsPart.repeated 3 listener.filterChains FilterChain.reads)
    |>.append (IsPart.repeated 9 listener.listenerFilters (Extension.reads (by decide)))
    |>.append (IsPart.optional 6 listener.metadata FilterMetadata.reads)).reads (by decide)
  intro fields ⟨⟨⟨⟨hname, haddress⟩, hchains⟩, hfilters⟩, hmetadata⟩
  simp [Listener.ofFields?, hname, haddress, hchains, hfilters, hmetadata]

theorem Listener.decode?_encode (listener : Listener) :
    Listener.decode? listener.encode = some listener :=
  listener.reads.decode_encode

theorem RouteDiscovery.reads (discovery : RouteDiscovery) :
    Reads RouteDiscovery.ofFields? discovery.fields discovery := by
  apply ((IsPart.optional 1 discovery.configSource ConfigSource.reads).append
    (IsPart.string 2 discovery.routeConfigName)).reads (by decide)
  intro fields ⟨hsource, hname⟩
  simp [RouteDiscovery.ofFields?, hsource, hname]

theorem RouteSpecifier.chooses (specifier : RouteSpecifier) :
    Chooses RouteSpecifier.members specifier.fields specifier := by
  cases specifier with
  | discovered discovery => exact .message discovery.reads rfl
  | inline configuration => exact .message configuration.reads rfl
  | _ =>
      have hmember : RouteSpecifier.members.lookup 31 =
          some (Read.messageMember (fun _ => some ()) fun _ => .scoped) := rfl
      have hchooses := Chooses.message Reads.empty hmember
      exact hchooses

theorem ConnectionManager.reads (manager : ConnectionManager) :
    Reads ConnectionManager.ofFields? manager.fields manager := by
  apply (IsPart.uint32 1 manager.codecType
    |>.append (IsPart.string 2 manager.statPrefix)
    |>.append (IsPart.choice manager.routes RouteSpecifier.chooses)
    |>.append (IsPart.repeated 5 manager.httpFilters
      (Extension.reads (by decide)))).reads (by decide)
  intro fields ⟨⟨⟨hcodec, hprefix⟩, hroutes⟩, hfilters⟩
  simp [ConnectionManager.ofFields?, RouteSpecifier.ofFields?, hcodec, hprefix, hroutes, hfilters]

theorem ConnectionManager.decode?_encode (manager : ConnectionManager) :
    ConnectionManager.decode? manager.encode = some manager :=
  manager.reads.decode_encode

theorem TlsCertificate.reads (certificate : TlsCertificate) :
    Reads TlsCertificate.ofFields? certificate.fields certificate := by
  apply ((IsPart.optional 1 certificate.certificateChain DataSource.reads).append
    (IsPart.optional 2 certificate.privateKey DataSource.reads)).reads (by decide)
  intro fields ⟨hchain, hkey⟩
  simp [TlsCertificate.ofFields?, hchain, hkey]

theorem TlsContext.reads (context : TlsContext) :
    Reads TlsContext.ofFields? context.fields context := by
  have hcertificates : Reads (Read.repeated TlsCertificate.ofFields? 2)
      (Write.repeated 2 TlsCertificate.fields context.certificates) context.certificates :=
    (IsPart.repeated 2 context.certificates TlsCertificate.reads).reads (by decide) fun _ => id
  apply (IsPart.message 1 hcertificates).reads (by decide)
  intro fields hcertificates
  simp [TlsContext.ofFields?, hcertificates]

theorem TlsContext.decode?_encode (context : TlsContext) :
    TlsContext.decode? context.encode = some context :=
  context.reads.decode_encode

end GatewayCompiler.Envoy
