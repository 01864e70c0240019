import GatewayCompiler.Proofs.Manifest.Leaves
import GatewayCompiler.Proofs.Schema.Manifest
import GatewayCompiler.Proofs.Snapshot

/-!
# API groups in manifests

An object is told by its kind alone.  No reader has a part for the API version, so an object of a
group that no translation knows is read as the object of the same kind that translations do know.
-/

namespace GatewayCompiler

open Schema

/-! Fields that a record has no part for -/

theorem Json.field?_withField {name key : String} (h : name ≠ key) (json value : Json) :
    (json.withField key value).field? name = json.field? name := by
  cases json with
  | object fields =>
      rw [withField, field?, field?, lookup_insertField, if_neg h]
  | _ => rfl

namespace Schema.Record

variable {α β : Type} {name key : String}

/-- A record that has no field of this name. -/
structure Ignores (key : String) (record : Record α) : Prop where
  unchecked : record.fields.lookup key = none
  build_congr : ∀ source source' : Source, source.missing = source'.missing →
    (∀ name, name ≠ key → source.find? name = source'.find? name) →
      record.build source = record.build source'

namespace Ignores

theorem pure (value : α) : Ignores key (Pure.pure value) :=
  ⟨rfl, fun _ _ _ _ => rfl⟩

theorem seq {f : Record (α → β)} {record : Record α} (hf : Ignores key f)
    (hrecord : Ignores key record) : Ignores key (f <*> record) where
  unchecked := by
    change (f.fields ++ record.fields).lookup key = none
    rw [List.lookup_append, hf.unchecked, hrecord.unchecked]
    rfl
  build_congr source source' hmissing hfind := by
    change (f.build source >>= fun g => record.build source >>= fun a => .ok (g a)) = _
    rw [hf.build_congr source source' hmissing hfind,
      hrecord.build_congr source source' hmissing hfind]
    rfl

theorem map {record : Record α} (hrecord : Ignores key record) (f : α → β) :
    Ignores key (f <$> record) :=
  (pure f).seq hrecord

theorem required (read : Reader α) (h : name ≠ key) : Ignores key (.required name read) where
  unchecked := by
    change [(name, fault? read)].lookup key = none
    rw [List.lookup_cons, beq_false_of_ne (Ne.symm h)]
    rfl
  build_congr source source' hmissing hfind := by
    rw [Record.required]
    simp only [hmissing, hfind name h]

theorem withDefault (read : Reader α) (default : α) (h : name ≠ key) :
    Ignores key (.withDefault name read default) where
  unchecked := (required read h).unchecked
  build_congr source source' _ hfind := by
    rw [Record.withDefault]
    simp only [hfind name h]

theorem optional (read : Reader α) (h : name ≠ key) : Ignores key (.optional name read) :=
  withDefault _ _ h

end Ignores

theorem checkFields_insertField {checks : List (String × (Json → Option Mismatch))}
    (h : checks.lookup key = none) (value : Json) (fields : List (String × Json)) :
    checkFields checks (Json.insertField key value fields) = checkFields checks fields := by
  have hskip : ∀ value rest, checkFields checks ((key, value) :: rest) = checkFields checks rest := by
    intro value rest
    simp only [checkFields, h]
  induction fields with
  | nil => rw [Json.insertField, hskip]
  | cons field rest ih =>
      obtain ⟨other, json⟩ := field
      rw [Json.insertField]
      split
      · rw [hskip]
      · split
        · rename_i hother
          rw [hskip, ← hother, hskip]
        · simp only [checkFields, ih]

/-- What an object has under a name that the record has no field of is not looked at. -/
theorem reader_withField {record : Record α} (h : Ignores key record) (typeName : String)
    (json value : Json) :
    reader typeName record (json.withField key value) = reader typeName record json := by
  cases json with
  | object fields =>
      have hbuild : record.build (ofObject (Json.insertField key value fields)) =
          record.build (ofObject fields) := by
        apply h.build_congr
        · rfl
        · intro name hname
          simp only [ofObject, Json.lookup_insertField, if_neg hname]
      rw [Json.withField, reader, reader, checkFields_insertField h.unchecked, hbuild]
  | _ => rfl

end Schema.Record

namespace Manifest

variable {source : String} (json version : Json)

theorem readAs_withField {α : Type} {record : Record α} (h : Record.Ignores "apiVersion" record)
    (kind typeName : String) :
    readAs source kind (record.reader typeName) (json.withField "apiVersion" version) =
      readAs source kind (record.reader typeName) json := by
  have hname : nameOf (json.withField "apiVersion" version) = nameOf json := by
    rw [nameOf, Json.field?_withField (by decide), nameOf]
  rw [readAs, readAs, Record.reader_withField h, hname]

/-- The objects that have metadata and a specification. -/
theorem ignores_of_spec {α β : Type} (make : Metadata → α → β) (read : Reader α) (default : α) :
    Record.Ignores "apiVersion" (make <$> Record.required "metadata" Metadata.reader
      <*> Record.withDefault "spec" read default) :=
  .seq (.map (.required _ (by decide)) _) (.withDefault _ _ (by decide))

theorem readObject_withField (kind : String) :
    readObject source kind (json.withField "apiVersion" version) =
      readObject source kind json := by
  unfold readObject
  split
  · simp only [Namespace.reader]
    rw [readAs_withField _ _ (.map (.required _ (by decide)) _)]
  · simp only [Gateway.reader]
    rw [readAs_withField _ _ (.seq (.map (.required _ (by decide)) _) (.required _ (by decide)))]
  · simp only [HttpRoute.reader]
    rw [readAs_withField _ _ (ignores_of_spec _ _ _)]
  · simp only [Service.reader]
    rw [readAs_withField _ _ (ignores_of_spec _ _ _)]
  · simp only [Secret.reader]
    rw [readAs_withField _ _ (.seq (.seq (.map (.required _ (by decide)) _)
      (.optional _ (by decide))) (.withDefault _ _ (by decide)))]
  · simp only [ReferenceGrant.reader]
    rw [readAs_withField _ _ (ignores_of_spec _ _ _)]
  · rfl

/-- What stands as the API version of an object does not matter. -/
theorem readValue_withField :
    readValue source (json.withField "apiVersion" version) = readValue source json := by
  have hkind : kindOf source (json.withField "apiVersion" version) = kindOf source json := by
    rw [kindOf, Json.field?_withField (by decide), kindOf]
  have hlist : readList source (json.withField "apiVersion" version) = readList source json := by
    rw [readList_eq, Json.field?_withField (by decide), readList_eq]
  rw [readValue, readValue, hkind, hlist]
  simp only [readObject_withField]

/-! Objects that are left out -/

/-- An object that can be left out of a value, at whatever depth it stands there. -/
def Ignored (source : String) (object : Json) : Prop :=
  ∀ value rest before after, leaves value = before ++ object :: after →
    leaves rest = before ++ after → readValue source value = readValue source rest

variable {json version}

theorem readObject_ne_none {kind : String} (h : kind ∈ ApiObject.kinds) :
    readObject source kind json ≠ .ok none := by
  intro hnone
  unfold readObject at hnone
  split at hnone
  case h_7 => simp_all [ApiObject.kinds]
  all_goals
    obtain ⟨read, _, hread⟩ := bind_eq_ok.1 hnone
    cases hread

/-- Only an object of a kind that is not read gives nothing. -/
theorem readValue_eq_nil_iff (h : items? json = none) : readValue source json = .ok [] ↔
    ∃ kind, kindOf source json = .ok kind ∧ kind ∉ "List" :: ApiObject.kinds := by
  constructor
  · intro hread
    rw [readValue_of_not_items h] at hread
    obtain ⟨kind, hkind, hread⟩ := bind_eq_ok.1 hread
    refine ⟨kind, hkind, ?_⟩
    split at hread
    · cases hread
    · rename_i hlist
      obtain ⟨object, hobject, hnone⟩ := map_eq_ok.1 hread
      rw [Option.toList_eq_nil_iff] at hnone
      subst hnone
      intro hmem
      obtain rfl | hmem := List.mem_cons.1 hmem
      · exact hlist rfl
      · exact readObject_ne_none hmem hobject
  · rintro ⟨kind, hkind, hother⟩
    exact readValue_of_other hkind hother

theorem ignored_iff (h : items? json = none) :
    Ignored source json ↔ readValue source json = .ok [] := by
  constructor
  · intro hignored
    have hlist : leaves (listOf [json]) = [json] := by
      rw [leaves_of_items (items?_listOf _), List.flatMap_singleton, leaves_of_not_items h]
    have hempty : leaves (listOf []) = [] := leaves_of_items (items?_listOf [])
    have hread := hignored (listOf [json]) (listOf []) [] [] hlist hempty
    rwa [readValue_of_items (items?_listOf _), readValue_of_items (items?_listOf _),
      collect_singleton] at hread
  · intro hread value rest before after hvalue hrest
    have hskip : collect source (json :: after) = collect source after := by
      rw [collect_cons, hread, ok_bind]
      cases collect source after <;> rfl
    rw [readValue_eq_collect_leaves value, readValue_eq_collect_leaves rest, hvalue, hrest,
      collect_append, collect_append, hskip]

/-- The group of an API version: what stands before the slash, or the core group. -/
def apiGroup (version : String) : String :=
  if '/' ∈ version.toList then String.ofList (version.toList.takeWhile (· ≠ '/')) else coreGroup

/-- The group of the objects that translations mean by a kind. -/
def groupOf? : String → Option String
  | "Namespace" | "Service" | "Secret" => some coreGroup
  | "Gateway" | "HTTPRoute" | "ReferenceGrant" => some gatewayGroup
  | _ => none

/-- An object of a kind that translations read, of another group than the one they mean. -/
def IsForeign (object : Json) : Prop :=
  ∃ kind version group, object.field? "kind" = some (.string kind) ∧
    object.field? "apiVersion" = some (.string version) ∧ groupOf? kind = some group ∧
    apiGroup version ≠ group

theorem mem_kinds_of_groupOf? {kind group : String} (h : groupOf? kind = some group) :
    kind ∈ ApiObject.kinds := by
  unfold groupOf? at h
  split at h
  all_goals first | decide | cases h

theorem items?_of_kind {kind : String} (hkind : json.field? "kind" = some (.string kind))
    (h : kind ≠ "List") : items? json = none := by
  unfold items?
  rw [hkind]
  split
  all_goals simp_all [Json.string?]

/-- What tells an object of a manifest, and what does not. -/
structure JudgesByKind (source : String) : Prop where
  /-- The API version is not looked at, -/
  version : ∀ object version,
    readValue source (object.withField "apiVersion" version) = readValue source object
  /-- so an object is left out for its kind and for nothing else, -/
  ignored : ∀ object, items? object = none → (Ignored source object ↔
    ∃ kind, kindOf source object = .ok kind ∧ kind ∉ "List" :: ApiObject.kinds)
  /-- and one of a foreign group never. -/
  foreign : ∀ object, IsForeign object → items? object = none ∧ ¬ Ignored source object
  /-- An object that is read takes the place of those before it that have its name. -/
  replaces : ∀ before objects object read, collect source before = .ok objects →
    readValue source object = .ok [read] → ∃ all snapshot,
      collect source (before ++ [object]) = .ok all ∧
      (Snapshot.ofObjects all).outcome = .ok snapshot ∧
      snapshot.object? read.identity = some read

theorem judges_by_kind (source : String) : JudgesByKind source where
  version := readValue_withField
  ignored object hitems := by rw [ignored_iff hitems, readValue_eq_nil_iff hitems]
  foreign object hforeign := by
    obtain ⟨kind, version, group, hkind, -, hgroup, -⟩ := hforeign
    have hmem := mem_kinds_of_groupOf? hgroup
    have hitems : items? object = none := by
      apply items?_of_kind hkind
      rintro rfl
      exact absurd hmem (by decide)
    refine ⟨hitems, ?_⟩
    rw [ignored_iff hitems, readValue_eq_nil_iff hitems]
    rintro ⟨other, hother, hskipped⟩
    have hsame : kindOf source object = .ok kind := by
      rw [kindOf, hkind]
      rfl
    obtain rfl : kind = other := Except.ok.inj (hsame.symm.trans hother)
    exact hskipped (List.mem_cons_of_mem _ hmem)
  replaces before objects object read hbefore hread := by
    have hall : collect source (before ++ [object]) = .ok (objects ++ [read]) := by
      rw [collect_append, hbefore, ok_bind, collect_singleton, hread]
      rfl
    refine ⟨_, _, hall, Snapshot.outcome_putAll _, ?_⟩
    rw [Snapshot.object?_foldl_insert, List.filter_append]
    simp

end Manifest

namespace Sample

/-- A Service of the core group. -/
def coreService : Json :=
  .object [
    ("apiVersion", .string "v1"),
    ("kind", .string "Service"),
    ("metadata", .object [("name", .string "web"), ("namespace", .string "shop")]),
    ("spec", .object [
      ("clusterIP", .string "10.0.0.4"),
      ("ports", .array [.object [("port", .int 8080)]])])]

/-- A Service of another group, of the same name. -/
def servingService : Json :=
  .object [
    ("apiVersion", .string "serving.knative.dev/v1"),
    ("kind", .string "Service"),
    ("metadata", .object [("name", .string "web"), ("namespace", .string "shop")]),
    ("spec", .object [
      ("template", .object [
        ("spec", .object [
          ("containers", .array [.object [("image", .string "registry.example/web")]])])])])]

end Sample

namespace Manifest

/-- A Service of a foreign group is not left out, and is found in place of the core one. -/
theorem not_ignored_of_serving : IsForeign Sample.servingService ∧
    ∃ core foreign : Service,
      collect "shop.yaml" [Sample.coreService] = .ok [.service core] ∧
      collect "shop.yaml" [Sample.coreService, Sample.servingService] =
        .ok [.service core, .service foreign] ∧
      core.key = foreign.key ∧ core.ports.length = 1 ∧ foreign.ports = [] := by
  have hcore : collect "shop.yaml" [Sample.coreService] = .ok [.service
      ⟨⟨"web", some "shop", ∅⟩, some "10.0.0.4", [⟨none, 8080, none⟩]⟩] := by
    rw [collect_singleton, readValue_of_not_items rfl]
    rfl
  have hserving : collect "shop.yaml" [Sample.servingService] = .ok [.service
      ⟨⟨"web", some "shop", ∅⟩, none, []⟩] := by
    rw [collect_singleton, readValue_of_not_items rfl]
    rfl
  have hboth := @collect_append "shop.yaml" [Sample.coreService] [Sample.servingService]
  rw [hcore, hserving] at hboth
  exact ⟨⟨_, _, _, rfl, rfl, rfl, by decide⟩, _, _, hcore, hboth, rfl, rfl, rfl⟩

end Manifest

end GatewayCompiler
