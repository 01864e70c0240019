import GatewayCompiler.Plan.Listener
import GatewayCompiler.Proofs.Wire.Listener
import Mathlib.Data.List.Forall2

/-!
# Bytes that do not depend on the order of maps

In memory the maps of metadata have no order of their own.  They are put in order before they are
written, after the other fields of a listener, so each listener has one encoding.  What is written
is what the maps would be written as if they happened to be in order.
-/

namespace GatewayCompiler.Envoy

open Wire

/-- A map from strings in the order in which it happens to be iterated. -/
structure UnsortedMap (α : Type) where
  entries : List (String × α)
  nodup_keys : (entries.map (·.1)).Nodup

namespace UnsortedMap

variable {α β γ : Type}

def map (f : α → β) (unsorted : UnsortedMap α) : UnsortedMap β where
  entries := unsorted.entries.map fun entry => (entry.1, f entry.2)
  nodup_keys := by
    rw [List.map_map]
    exact unsorted.nodup_keys

theorem entries_map (f : α → β) (unsorted : UnsortedMap α) :
    (unsorted.map f).entries = unsorted.entries.map fun entry => (entry.1, f entry.2) :=
  rfl

/-- The map with its keys in order. -/
def sorted (unsorted : UnsortedMap α) : Table String α :=
  Table.ofList unsorted.entries

/-- A map whose keys happen to come in order. -/
def ofTable (table : Table String α) : UnsortedMap α :=
  ⟨table.entries, table.nodup_keys⟩

/-- The fields of the map, one for each entry. -/
def fields (number : Nat) (write : α → Fields) (unsorted : UnsortedMap α) : Fields :=
  unsorted.entries.flatMap (Write.mapEntry number write)

/-- The same keys in any order, with values that are the same. -/
def Reorders (same : α → β → Prop) (first : UnsortedMap α) (second : UnsortedMap β) : Prop :=
  ∃ entries, first.entries.Perm entries ∧
    List.Forall₂ (fun a b => a.1 = b.1 ∧ same a.2 b.2) entries second.entries

/-- Fields that are there, whatever is read of them. -/
theorem fields_isPart (number : Nat) (write : α → Fields) (unsorted : UnsortedMap α) :
    IsPart [number] (unsorted.fields number write) fun _ => True := by
  let payload (entry : String × α) : Payload :=
    .bytes (encode (Write.string 1 entry.1 ++ Write.mapValue 2 (write entry.2)))
  have hparts := @IsPart.each _ Unit number payload (fun _ => some ()) (fun _ => ())
    unsorted.entries (fun _ => trivial) (fun _ => rfl)
  exact hparts.imp fun _ _ => trivial

theorem perm_sorted (unsorted : UnsortedMap α) : unsorted.sorted.entries.Perm unsorted.entries :=
  Table.perm_ofList unsorted.nodup_keys

theorem sorted_ofTable (table : Table String α) : (ofTable table).sorted = table :=
  table.ofList_entries

/-- In order, maps are the same if what is made of their values is. -/
theorem sorted_map_eq {same : α → β → Prop} {f : α → γ} {g : β → γ} {first : UnsortedMap α}
    {second : UnsortedMap β} (h : first.Reorders same second) (hfg : ∀ a b, same a b → f a = g b) :
    (first.map f).sorted = (second.map g).sorted := by
  obtain ⟨entries, hperm, hentries⟩ := h
  have hpairs : List.Forall₂ Eq (entries.map fun entry => (entry.1, f entry.2))
      (second.map g).entries := by
    rw [entries_map, List.forall₂_map_left_iff, List.forall₂_map_right_iff]
    apply hentries.imp
    rintro ⟨key, a⟩ ⟨_, b⟩ ⟨rfl, hsame⟩
    exact congrArg (Prod.mk key) (hfg a b hsame)
  rw [List.forall₂_eq_eq_eq] at hpairs
  have hmapped : (first.map f).entries.Perm (second.map g).entries := by
    rw [← hpairs]
    exact hperm.map _
  exact Table.eq_of_perm ((perm_sorted _).trans (hmapped.trans (perm_sorted _).symm))

theorem reorders_of_perm {first second : UnsortedMap α} (h : first.entries.Perm second.entries) :
    first.Reorders Eq second :=
  ⟨second.entries, h, List.forall₂_same.2 fun _ _ => ⟨rfl, rfl⟩⟩

theorem sorted_eq {first second : UnsortedMap α} (h : first.Reorders Eq second) :
    first.sorted = second.sorted := by
  have hmapped := sorted_map_eq (f := id) (g := id) h fun _ _ hsame => hsame
  simpa only [map, id, List.map_id'] using hmapped

end UnsortedMap

/-- Metadata as a listener has them in memory; the values are of any kind. -/
structure UnsortedMetadata (α : Type) where
  filters : UnsortedMap (UnsortedMap α)
  typed : UnsortedMap Any

/-- Metadata with all keys in order, as they are written. -/
structure SortedMetadata (α : Type) where
  filters : Table String (Table String α)
  typed : Table String Any

variable {α : Type}

namespace UnsortedMetadata

def sorted (metadata : UnsortedMetadata α) : SortedMetadata α where
  filters := (metadata.filters.map UnsortedMap.sorted).sorted
  typed := metadata.typed.sorted

def fields (write : α → Fields) (metadata : UnsortedMetadata α) : Fields :=
  metadata.filters.fields 1 (UnsortedMap.fields 1 write) ++ metadata.typed.fields 2 Any.fields

/-- The same metadata in any order of each of its maps. -/
structure Reorders (first second : UnsortedMetadata α) : Prop where
  filters : first.filters.Reorders (UnsortedMap.Reorders Eq) second.filters
  typed : first.typed.Reorders Eq second.typed

end UnsortedMetadata

namespace SortedMetadata

/-- Metadata whose keys happen to come in order. -/
def unsorted (metadata : SortedMetadata α) : UnsortedMetadata α where
  filters := (UnsortedMap.ofTable metadata.filters).map UnsortedMap.ofTable
  typed := .ofTable metadata.typed

def fields (write : α → Fields) (metadata : SortedMetadata α) : Fields :=
  metadata.filters.entries.flatMap (Write.mapEntry 1 fun values =>
      values.entries.flatMap (Write.mapEntry 1 write)) ++
    metadata.typed.entries.flatMap (Write.mapEntry 2 Any.fields)

/-- Metadata in order are written as they would be without an order of their own. -/
theorem fields_unsorted (write : α → Fields) (metadata : SortedMetadata α) :
    metadata.unsorted.fields write = metadata.fields write := by
  rw [UnsortedMetadata.fields, UnsortedMap.fields, unsorted, UnsortedMap.map, List.flatMap_map]
  rfl

theorem sorted_unsorted (metadata : SortedMetadata α) : metadata.unsorted.sorted = metadata := by
  obtain ⟨filters, typed⟩ := metadata
  have hentries : (((UnsortedMap.ofTable filters).map UnsortedMap.ofTable).map
      UnsortedMap.sorted).entries = filters.entries := by
    rw [UnsortedMap.entries_map, UnsortedMap.entries_map, List.map_map]
    simp only [Function.comp_def, UnsortedMap.sorted_ofTable]
    exact List.map_id' _
  rw [unsorted, UnsortedMetadata.sorted, UnsortedMap.sorted_ofTable, UnsortedMap.sorted, hentries,
    filters.ofList_entries]

end SortedMetadata

namespace UnsortedMetadata

/-- Putting metadata in order changes nothing but their order. -/
theorem sorted_reorders (metadata : UnsortedMetadata α) :
    metadata.sorted.unsorted.Reorders metadata where
  filters := by
    refine ⟨_, ((metadata.filters.map UnsortedMap.sorted).perm_sorted.map _), ?_⟩
    rw [UnsortedMap.entries_map, List.map_map, List.forall₂_map_left_iff, List.forall₂_same]
    exact fun entry _ => ⟨rfl, UnsortedMap.reorders_of_perm entry.2.perm_sorted⟩
  typed := UnsortedMap.reorders_of_perm metadata.typed.perm_sorted

/-- In order, the same metadata are the same. -/
theorem sorted_eq {first second : UnsortedMetadata α} (h : first.Reorders second) :
    first.sorted = second.sorted := by
  rw [sorted, sorted, UnsortedMap.sorted_eq h.typed,
    UnsortedMap.sorted_map_eq h.filters fun _ _ => UnsortedMap.sorted_eq]

/-- The fields of metadata are read as the metadata in order, typed ones aside. -/
theorem reads (metadata : UnsortedMetadata String) :
    Reads FilterMetadata.ofFields? (metadata.fields (Write.presentString 3))
      metadata.sorted.filters := by
  have hvalues (values : UnsortedMap String) : Reads FilterMetadata.valuesOfFields?
      (values.fields 1 (Write.presentString 3)) values.sorted := by
    apply (entries_isPart FilterMetadata.text_reads (fun s h => nomatch h)
      values.entries).reads (by decide)
    intro fields hfields
    rw [FilterMetadata.valuesOfFields?, hfields, List.map_id']
    rfl
  have hempty (values : UnsortedMap String)
      (h : values.fields 1 (Write.presentString 3) = []) : ∅ = values.sorted := by
    obtain ⟨_ | ⟨entry, entries⟩, _⟩ := values
    · rfl
    · cases h
  apply ((entries_isPart hvalues hempty metadata.filters.entries).append
    (metadata.typed.fields_isPart 2 Any.fields)).reads (by decide)
  intro fields hfields
  exact hfields.1

end UnsortedMetadata

namespace Listener

/-- In memory the listener has these metadata, whatever the order of their maps. -/
def Holds (listener : Listener) (metadata : Option (UnsortedMetadata String)) : Prop :=
  Option.Rel (fun filters unsorted => unsorted.Reorders (SortedMetadata.unsorted ⟨filters, ∅⟩))
    listener.metadata metadata

/-- The bytes of a listener with these metadata, which are put in order and after all the rest. -/
def encodeSorted (listener : Listener) (metadata : Option (UnsortedMetadata String)) : Bytes :=
  { listener with metadata := none }.encode ++
    Wire.encode (Write.optional (fun unsorted =>
      Write.message 6 (unsorted.sorted.fields (Write.presentString 3))) metadata)

/-- The fields of a listener with these metadata by their numbers, the maps as they happen to be. -/
def unsortedFields (listener : Listener) (metadata : Option (UnsortedMetadata String)) : Fields :=
  Write.string 1 listener.name ++
    Write.optional (fun socket => Write.message 2 (SocketAddress.fields socket)) listener.address ++
    Write.repeated 3 FilterChain.fields listener.filterChains ++
    Write.optional (fun unsorted =>
      Write.message 6 (unsorted.fields (Write.presentString 3))) metadata ++
    Write.repeated 9 (Extension.fields 3) listener.listenerFilters

variable {listener : Listener} {metadata : Option (UnsortedMetadata String)}

/-- Put in order, metadata in memory are those of the listener. -/
theorem map_sorted_of_holds (h : listener.Holds metadata) :
    metadata.map UnsortedMetadata.sorted = listener.metadata.map (SortedMetadata.mk · ∅) := by
  rw [Holds] at h
  generalize listener.metadata = held at h ⊢
  cases h with
  | none => rfl
  | some hsame =>
      rw [Option.map_some, Option.map_some, UnsortedMetadata.sorted_eq hsame,
        SortedMetadata.sorted_unsorted]

theorem encodeSorted_eq (h : listener.Holds metadata) :
    listener.encodeSorted metadata = listener.encode := by
  have hfields (filters : FilterMetadata) :
      SortedMetadata.fields (Write.presentString 3) ⟨filters, ∅⟩ = FilterMetadata.fields filters :=
    List.append_nil _
  let write (sorted : SortedMetadata String) : Fields :=
    Write.message 6 (sorted.fields (Write.presentString 3))
  have hmetadata : Write.optional (fun unsorted => write unsorted.sorted) metadata =
      Write.optional (fun filters => Write.message 6 (FilterMetadata.fields filters))
        listener.metadata := by
    simp only [← hfields]
    rw [← Write.optional_map, map_sorted_of_holds h, Write.optional_map]
  rw [encodeSorted, encode, encode, hmetadata, ← encode_append]
  simp only [fields, Write.optional, List.append_nil]

theorem unsorted_reads (h : listener.Holds metadata) :
    Reads Listener.ofFields? (listener.unsortedFields metadata) listener := by
  apply (IsPart.string 1 listener.name
    |>.append (IsPart.optional 2 listener.address SocketAddress.reads)
    |>.append (IsPart.repeated 3 listener.filterChains FilterChain.reads)
    |>.append (IsPart.optional 6 metadata UnsortedMetadata.reads)
    |>.append (IsPart.repeated 9 listener.listenerFilters
      (Extension.reads (by decide)))).reads (by decide)
  intro fields ⟨⟨⟨⟨hname, haddress⟩, hchains⟩, hmetadata⟩, hfilters⟩
  have hsame : metadata.map (·.sorted.filters) = listener.metadata := by
    have hsorted := congrArg (Option.map SortedMetadata.filters) (map_sorted_of_holds h)
    simpa [Option.map_map, Function.comp_def] using hsorted
  simp [Listener.ofFields?, hname, haddress, hchains, hmetadata, hfilters, hsame]

/-- One encoding stands for the listener, whatever the order of the maps that it has in memory. -/
structure IsCanonical (listener : Listener) : Prop where
  encode_eq : ∀ metadata, listener.Holds metadata →
    listener.encodeSorted metadata = listener.encode
  decode_eq : decode? listener.encode = some listener
  /-- It says the same as any bytes with the maps as they happen to be. -/
  decode_unsorted : ∀ metadata, listener.Holds metadata →
    decode? (Wire.encode (listener.unsortedFields metadata)) = some listener

theorem isCanonical (listener : Listener) : listener.IsCanonical where
  encode_eq _ := encodeSorted_eq
  decode_eq := listener.decode?_encode
  decode_unsorted _ h := (unsorted_reads h).decode_encode

end Listener

end GatewayCompiler.Envoy

namespace GatewayCompiler

open Envoy Wire

/-- A planned listener has one encoding, from which it is decoded with the metadata of its plan.
Metadata of any kind, put in order, are written with the fields of metadata that happen to be in
that order. -/
theorem ListenerPlan.isCanonical_of_toListener {plan : ListenerPlan} {listener : Envoy.Listener}
    (h : plan.toListener = .ok listener) :
    listener.metadata = plan.toMetadata ∧ listener.IsCanonical ∧
      ∀ (α : Type) (write : α → Fields) (metadata : UnsortedMetadata α),
        metadata.sorted.unsorted.Reorders metadata ∧
          metadata.sorted.fields write = metadata.sorted.unsorted.fields write := by
  refine ⟨?_, listener.isCanonical, ?_⟩
  · rw [toListener] at h
    split at h
    · cases h
    · cases h
      rfl
  · intro α write metadata
    exact ⟨metadata.sorted_reorders, (metadata.sorted.fields_unsorted write).symm⟩

namespace Sample

/-- The plan of a listener with metadata of its own. -/
def originPlan : ListenerPlan where
  name := "infra/edge/http"
  address := "0.0.0.0"
  port := 80
  chains := [⟨none, [], "infra/edge/http", "http", none⟩]
  metadata := Table.ofList [("", ""), ("gateway", "edge")]
  inspectsTls := false

/-- The metadata of the plan in another order. -/
def originMetadata : UnsortedMetadata String where
  filters := ⟨[(ListenerPlan.metadataNamespace, ⟨[("gateway", "edge"), ("", "")], by decide⟩)],
    List.nodup_singleton _⟩
  typed := ⟨[], .nil⟩

end Sample

theorem ListenerPlan.isCanonical_of_origin : ∃ listener,
    Sample.originPlan.toListener = .ok listener ∧ listener.Holds (some Sample.originMetadata) ∧
      listener.encodeSorted (some Sample.originMetadata) = listener.encode ∧
      listener.metadata = Sample.originPlan.toMetadata := by
  obtain ⟨listener, hplan, hholds⟩ : ∃ listener, Sample.originPlan.toListener = .ok listener ∧
      listener.Holds (some Sample.originMetadata) := by
    refine ⟨_, rfl, .some ⟨⟨_, .refl _, .cons ⟨rfl, ?_⟩ .nil⟩, ⟨[], .nil, .nil⟩⟩⟩
    exact UnsortedMap.reorders_of_perm (.swap ..)
  obtain ⟨hmetadata, hcanonical, _⟩ := isCanonical_of_toListener hplan
  exact ⟨listener, hplan, hholds, hcanonical.encode_eq _ hholds, hmetadata⟩

end GatewayCompiler
