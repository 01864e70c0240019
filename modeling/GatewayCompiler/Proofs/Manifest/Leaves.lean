import GatewayCompiler.Manifest
import GatewayCompiler.Proofs.Outcome
import GatewayCompiler.Proofs.Schema.Records

/-!
# Lists in manifests

A list of objects is read as its items are, one after another, and so, however lists are nested, as
its leaves are.  Each leaf gives an object, nothing, or the fault of the whole.
-/

namespace GatewayCompiler

/-- The kinds of objects that translations read. -/
def ApiObject.kinds : List String :=
  ["Namespace", "Gateway", "HTTPRoute", "Service", "Secret", "ReferenceGrant"]

/-- The metadata of an object of any kind. -/
def ApiObject.metadata : ApiObject → Metadata
  | .ns o => o.metadata
  | .gateway o => o.metadata
  | .httpRoute o => o.metadata
  | .service o => o.metadata
  | .secret o => o.metadata
  | .referenceGrant o => o.metadata

/-- Filled in or not, the namespace is then a name. -/
theorem Metadata.exists_withNamespace (metadata : Metadata) :
    ∃ ns, metadata.withNamespace.ns = some ns ∧ ns ≠ "" := by
  rw [withNamespace]
  split
  · rename_i ns hfilter
    obtain ⟨hns, hname⟩ := Option.filter_eq_some_iff.1 hfilter
    exact ⟨ns, hns, of_decide_eq_true hname⟩
  · exact ⟨defaultNamespace, rfl, by decide⟩

namespace Manifest

/-! Items and leaves -/

/-- The items of a list; none of a value that is no list, or one whose items are no array. -/
def items? (json : Json) : Option (List Json) :=
  match (json.field? "kind").bind Json.string?, json.field? "items" with
  | some "List", some (.array items) => some items
  | some "List", some .null => some []
  | some "List", none => some []
  | _, _ => none

theorem sizeOf_lt_of_field? {json item : Json} {items : List Json}
    (h : json.field? "items" = some (.array items)) (hitem : item ∈ items) :
    sizeOf item < sizeOf json := by
  cases json with
  | object fields =>
      have harray := List.sizeOf_lt_of_mem (Json.mem_of_lookup h)
      have hitem := List.sizeOf_lt_of_mem hitem
      simp only [Prod.mk.sizeOf_spec, Json.array.sizeOf_spec] at harray
      simp only [Json.object.sizeOf_spec]
      omega
  | _ => cases h

theorem sizeOf_lt_of_items? {json item : Json} {items : List Json} (h : items? json = some items)
    (hitem : item ∈ items) : sizeOf item < sizeOf json := by
  unfold items? at h
  split at h
  · rename_i hfield
    cases h
    exact sizeOf_lt_of_field? hfield hitem
  · cases h
    cases hitem
  · cases h
    cases hitem
  · cases h

/-- The values that a value holds: a list those of its items, any other value itself. -/
def leaves (json : Json) : List Json :=
  match _ : items? json with
  | some items => items.attach.flatMap fun item => leaves item.1
  | none => [json]
termination_by sizeOf json
decreasing_by exact sizeOf_lt_of_items? ‹_› item.2

theorem leaves_of_items {json : Json} {items : List Json} (h : items? json = some items) :
    leaves json = items.flatMap leaves := by
  rw [leaves]
  split
  · rename_i found hfound
    obtain rfl : found = items := Option.some.inj (hfound.symm.trans h)
    simp
  · rename_i hnone
    rw [h] at hnone
    cases hnone

theorem leaves_of_not_items {json : Json} (h : items? json = none) : leaves json = [json] := by
  rw [leaves]
  split
  · rename_i hitems
    rw [h] at hitems
    cases hitems
  · rfl

/-- What is left after all lists have been opened is no list. -/
theorem items?_leaf (json : Json) : ∀ leaf ∈ leaves json, items? leaf = none := by
  induction json using leaves.induct with
  | case1 json items h ih =>
      rw [leaves_of_items h]
      intro leaf hleaf
      obtain ⟨item, hitem, hleaf⟩ := List.mem_flatMap.1 hleaf
      exact ih ⟨item, hitem⟩ leaf hleaf
  | case2 json h =>
      rw [leaves_of_not_items h]
      intro leaf hleaf
      rwa [List.mem_singleton.1 hleaf]

/-! Values read one after another -/

/-- The objects of values that are read one after another. -/
def collect (source : String) (values : List Json) : Except Fault (List ApiObject) :=
  (values.mapM (readValue source)).map List.flatten

variable {source : String}

theorem collect_nil : collect source [] = .ok [] :=
  rfl

theorem collect_cons (json : Json) (rest : List Json) : collect source (json :: rest) =
    readValue source json >>= fun objects => (collect source rest).map (objects ++ ·) := by
  rw [collect, collect, List.mapM_cons]
  cases readValue source json with
  | error fault => rfl
  | ok objects =>
      rw [ok_bind, ok_bind]
      cases rest.mapM (readValue source) <;> rfl

theorem collect_singleton (json : Json) : collect source [json] = readValue source json := by
  rw [collect_cons, collect_nil]
  cases readValue source json with
  | error fault => rfl
  | ok objects => exact congrArg Except.ok (List.append_nil objects)

theorem collect_append (first second : List Json) : collect source (first ++ second) =
    collect source first >>= fun objects => (collect source second).map (objects ++ ·) := by
  rw [collect, collect, collect, List.mapM_append]
  cases first.mapM (readValue source) with
  | error fault => rfl
  | ok lists =>
      show (second.mapM (readValue source) >>= fun rest => pure (lists ++ rest)).map _ =
        ((second.mapM (readValue source)).map List.flatten).map (lists.flatten ++ ·)
      cases second.mapM (readValue source) with
      | error fault => rfl
      | ok rest => exact congrArg Except.ok List.flatten_append

theorem readValues_eq_collect (values : List Json) :
    readValues source values = collect source values := by
  induction values with
  | nil =>
      rw [readValues]
      rfl
  | cons json rest ih =>
      rw [readValues, collect_cons, ih]
      rfl

theorem readItemsField_eq (fields : List (String × Json)) :
    readItemsField source fields = (fields.lookup "items").elim (.ok []) (readItems source) := by
  induction fields with
  | nil =>
      rw [readItemsField]
      rfl
  | cons field rest ih =>
      obtain ⟨name, value⟩ := field
      rw [readItemsField, Json.lookup_cons, ih]
      by_cases hname : name = "items"
      · rw [if_pos hname, if_pos hname.symm]
        rfl
      · rw [if_neg hname, if_neg (Ne.symm hname)]

theorem readList_eq (json : Json) :
    readList source json = (json.field? "items").elim (.ok []) (readItems source) := by
  cases json with
  | object fields => rw [readList, readItemsField_eq, Json.field?]
  | _ => simp [readList, Json.field?]

/-- A list is read as its items are, one after another. -/
theorem readValue_of_items {json : Json} {items : List Json} (h : items? json = some items) :
    readValue source json = collect source items := by
  unfold items? at h
  have hlist : (json.field? "kind").bind Json.string? = some "List" →
      readValue source json = (json.field? "items").elim (.ok []) (readItems source) := by
    intro hkind
    rw [readValue, kindOf, hkind, ok_bind, if_pos rfl, readList_eq]
  split at h
  · rename_i hkind hitems
    cases h
    rw [hlist hkind, hitems, Option.elim, readItems, readValues_eq_collect]
  · rename_i hkind hitems
    cases h
    rw [hlist hkind, hitems, Option.elim, readItems]
    rfl
  · rename_i hkind hitems
    cases h
    rw [hlist hkind, hitems]
    rfl
  · cases h

/-- Reading values one after another is reading what each stands for, one after another. -/
theorem collect_flatMap {expand : Json → List Json} {values : List Json}
    (h : ∀ json ∈ values, readValue source json = collect source (expand json)) :
    collect source (values.flatMap expand) = collect source values := by
  induction values with
  | nil => rfl
  | cons json rest ih =>
      obtain ⟨hjson, hrest⟩ := List.forall_mem_cons.1 h
      rw [List.flatMap_cons, collect_append, collect_cons, hjson, ih hrest]

/-- However deep lists are nested, a value is read as its leaves are. -/
theorem readValue_eq_collect_leaves (json : Json) :
    readValue source json = collect source (leaves json) := by
  induction json using leaves.induct with
  | case1 json items h ih =>
      rw [readValue_of_items h, leaves_of_items h]
      exact (collect_flatMap fun item hitem => ih ⟨item, hitem⟩).symm
  | case2 json h => rw [leaves_of_not_items h, collect_singleton]

/-! Values that are no lists -/

theorem readItems_eq_error {json : Json} (hnull : json ≠ .null)
    (harray : ∀ items, json ≠ .array items) :
    readItems source json = .error (.manifest source "'items' of a List must be an array") := by
  cases json with
  | null => exact absurd rfl hnull
  | array items => exact absurd rfl (harray items)
  | _ => simp [readItems]

/-- A value that is no list is read by its kind.  A list whose items are no array is none. -/
theorem readValue_of_not_items {json : Json} (h : items? json = none) :
    readValue source json = kindOf source json >>= fun kind =>
      if kind = "List" then .error (.manifest source "'items' of a List must be an array")
      else (readObject source kind json).map Option.toList := by
  rw [readValue]
  cases hkind : kindOf source json with
  | error fault => rfl
  | ok kind =>
      rw [ok_bind, ok_bind]
      split
      · rename_i hlist
        subst hlist
        have hkind : (json.field? "kind").bind Json.string? = some "List" := by
          unfold kindOf at hkind
          split at hkind
          · cases hkind
            assumption
          · cases hkind
        rw [readList_eq]
        unfold items? at h
        rw [hkind] at h
        cases hfield : json.field? "items" with
        | none =>
            rw [hfield] at h
            cases h
        | some value =>
            rw [hfield] at h
            apply readItems_eq_error
            · rintro rfl
              cases h
            · rintro items rfl
              cases h
      · cases readObject source kind json <;> rfl

theorem readObject_of_other {kind : String} (json : Json)
    (h : kind ∉ ApiObject.kinds) : readObject source kind json = .ok none := by
  unfold readObject
  split
  all_goals first | rfl | simp [ApiObject.kinds] at h

/-- An object is of the kind that it is read as, and in a namespace if that kind has them. -/
theorem readObject_eq_some {kind : String} {json : Json} {object : ApiObject}
    (h : readObject source kind json = .ok (some object)) :
    object.kind = kind ∧
      (kind ≠ "Namespace" → ∃ ns, object.metadata.ns = some ns ∧ ns ≠ "") := by
  unfold readObject at h
  split at h
  · obtain ⟨read, _, hread⟩ := bind_eq_ok.1 h
    cases hread
    exact ⟨rfl, fun hkind => absurd rfl hkind⟩
  all_goals first
    | obtain ⟨read, _, hread⟩ := bind_eq_ok.1 h
      cases hread
      exact ⟨rfl, fun _ => Metadata.exists_withNamespace _⟩
    | cases h

theorem readValue_of_other {json : Json} {kind : String} (hkind : kindOf source json = .ok kind)
    (h : kind ∉ "List" :: ApiObject.kinds) : readValue source json = .ok [] := by
  obtain ⟨hlist, hother⟩ := not_or.1 (mt List.mem_cons.2 h)
  rw [readValue, hkind, ok_bind, if_neg hlist, readObject_of_other json hother]
  rfl

theorem exists_readObject_of_mem {json : Json} (h : items? json = none) {objects : List ApiObject}
    (hread : readValue source json = .ok objects) {object : ApiObject} (hobject : object ∈ objects) :
    ∃ kind, readObject source kind json = .ok (some object) := by
  rw [readValue_of_not_items h] at hread
  obtain ⟨kind, _, hread⟩ := bind_eq_ok.1 hread
  split at hread
  · cases hread
  · obtain ⟨found, hfound, rfl⟩ := map_eq_ok.1 hread
    refine ⟨kind, ?_⟩
    rwa [Option.mem_toList.1 hobject] at hfound

/-- Wherever an object stands in a value, it is read as an object of its kind. -/
theorem exists_leaf_of_mem {json : Json} {objects : List ApiObject}
    (hread : readValue source json = .ok objects) {object : ApiObject} (hobject : object ∈ objects) :
    ∃ leaf ∈ leaves json, ∃ kind, readObject source kind leaf = .ok (some object) := by
  rw [readValue_eq_collect_leaves] at hread
  obtain ⟨lists, hlists, rfl⟩ := map_eq_ok.1 hread
  obtain ⟨list, hlist, hobject⟩ := List.mem_flatten.1 hobject
  obtain ⟨leaf, hleaf, hlist⟩ := exists_of_mem_mapM hlists hlist
  exact ⟨leaf, hleaf, exists_readObject_of_mem (items?_leaf json leaf hleaf) hlist hobject⟩

/-! Documents -/

/-- The objects of documents that are read one after another. -/
def readDocuments (source : String) (documents : List Yaml.Document) :
    Except Fault (List ApiObject) :=
  (documents.zipIdx.mapM fun entry => readDocument source entry.2 entry.1).map List.flatten

theorem parse_eq_readDocuments (text : String) :
    parse source text = readDocuments source (Yaml.documents text) := by
  rw [parse, readDocuments]
  cases (Yaml.documents text).zipIdx.mapM fun entry => readDocument source entry.2 entry.1 <;> rfl

/-- Where a document stands does not matter to what it holds. -/
theorem readDocuments_map_value (values : List Json) :
    readDocuments source (values.map .value) = collect source values := by
  have hplaces : ∀ start, ((values.map Yaml.Document.value).zipIdx start).mapM
      (fun entry => readDocument source entry.2 entry.1) = values.mapM (readValue source) := by
    induction values with
    | nil => exact fun _ => rfl
    | cons json rest ih =>
        intro start
        rw [List.map_cons, List.zipIdx_cons, List.mapM_cons, List.mapM_cons, ih, readDocument]
  rw [readDocuments, hplaces, collect]

/-- The list object of these items, with no other field. -/
def listOf (items : List Json) : Json :=
  .object [("items", .array items), ("kind", .string "List")]

theorem items?_listOf (items : List Json) : items? (listOf items) = some items :=
  rfl

theorem exists_readDocument_of_mem {text : String} {objects : List ApiObject}
    (h : parse source text = .ok objects) {object : ApiObject} (hobject : object ∈ objects) :
    ∃ json found, .value json ∈ Yaml.documents text ∧ readValue source json = .ok found ∧
      object ∈ found := by
  rw [parse_eq_readDocuments] at h
  obtain ⟨lists, hlists, rfl⟩ := map_eq_ok.1 h
  obtain ⟨found, hfound, hobject⟩ := List.mem_flatten.1 hobject
  obtain ⟨⟨document, index⟩, hentry, hread⟩ := exists_of_mem_mapM hlists hfound
  have hdocument : document ∈ Yaml.documents text := List.fst_mem_of_mem_zipIdx hentry
  have hread : readDocument source index document = .ok found := hread
  unfold readDocument at hread
  split at hread
  · cases hread
  · cases hread
    cases hobject
  · exact ⟨_, found, hdocument, hread, hobject⟩

/-! Faults -/

/-- The first of the values that cannot be read has this fault. -/
def FailsFirst {α β : Type} (read : α → Except Fault β) (values : List α) (fault : Fault) : Prop :=
  ∃ before value after, values = before ++ value :: after ∧
    (∀ earlier ∈ before, ∃ found, read earlier = .ok found) ∧ read value = .error fault

theorem readValue_eq_error_iff {json : Json} {fault : Fault} :
    readValue source json = .error fault ↔ FailsFirst (readValue source) (leaves json) fault := by
  rw [readValue_eq_collect_leaves, collect, map_eq_error, mapM_eq_error_iff]
  rfl

theorem parse_eq_error_iff {text : String} {fault : Fault} :
    parse source text = .error fault ↔
      FailsFirst (fun entry => readDocument source entry.2 entry.1)
        (Yaml.documents text).zipIdx fault := by
  rw [parse_eq_readDocuments, readDocuments, map_eq_error, mapM_eq_error_iff]
  rfl

theorem exists_parse_eq_error {text : String} {json leaf : Json} {fault : Fault}
    (hdocument : .value json ∈ Yaml.documents text) (hleaf : leaf ∈ leaves json)
    (hfault : readValue source leaf = .error fault) :
    ∃ first, parse source text = .error first := by
  cases hparse : parse source text with
  | error first => exact ⟨first, rfl⟩
  | ok objects =>
      exfalso
      rw [parse_eq_readDocuments] at hparse
      obtain ⟨lists, hlists, _⟩ := map_eq_ok.1 hparse
      obtain ⟨index, found, hread⟩ := exists_eq_ok_at_place hlists hdocument
      rw [readDocument, readValue_eq_collect_leaves] at hread
      obtain ⟨lists, hlists, _⟩ := map_eq_ok.1 hread
      obtain ⟨found, hread⟩ := exists_eq_ok_of_mem hlists hleaf
      rw [hfault] at hread
      cases hread

/-- What lists, kinds and faults are to the objects of a manifest. -/
structure OpensLists (source : String) : Prop where
  /-- A list, with whatever other fields, is its items one after another, -/
  items : ∀ json items, items? json = some items →
    readValue source json = collect source items
  /-- so that values can be in a list or in documents of their own, -/
  documents : ∀ values,
    readDocuments source [.value (listOf values)] = readDocuments source (values.map .value)
  /-- and lists that hold lists can be opened to values that are none. -/
  nested : ∀ json, readValue source json = collect source (leaves json) ∧
    ∀ leaf ∈ leaves json, items? leaf = none
  /-- A text is read document by document. -/
  text : ∀ text, parse source text = readDocuments source (Yaml.documents text)
  /-- Every object that is found in it is in a namespace, if its kind has them. -/
  namespaces : ∀ text objects, parse source text = .ok objects → ∀ object ∈ objects,
    object.kind ≠ "Namespace" → ∃ ns, object.metadata.ns = some ns ∧ ns ≠ ""
  /-- An object of another kind adds nothing. -/
  others : ∀ json kind, kindOf source json = .ok kind → kind ∉ "List" :: ApiObject.kinds →
    readValue source json = .ok []
  /-- A value that cannot be read fails the text that it stands in, at any depth, -/
  fails : ∀ text json, .value json ∈ Yaml.documents text → ∀ leaf ∈ leaves json,
    ∀ fault, readValue source leaf = .error fault → ∃ first, parse source text = .error first
  /-- and the fault is that of the first such document, -/
  fault : ∀ text fault, parse source text = .error fault ↔
    FailsFirst (fun entry => readDocument source entry.2 entry.1)
      (Yaml.documents text).zipIdx fault
  /-- in it of the first such leaf. -/
  leafFault : ∀ json fault, readValue source json = .error fault ↔
    FailsFirst (readValue source) (leaves json) fault

/-- Lists are transparent: only what they hold counts, in its order and at any depth. -/
theorem opens_lists (source : String) : OpensLists source where
  items _ _ := readValue_of_items
  documents values :=
    calc readDocuments source [.value (listOf values)]
      _ = collect source [listOf values] := readDocuments_map_value [listOf values]
      _ = collect source values := by
        rw [collect_singleton, readValue_of_items (items?_listOf values)]
      _ = readDocuments source (values.map .value) := (readDocuments_map_value values).symm
  nested json := ⟨readValue_eq_collect_leaves json, items?_leaf json⟩
  text := parse_eq_readDocuments
  namespaces text objects hparse object hobject hkind := by
    obtain ⟨json, found, _, hread, hobject⟩ := exists_readDocument_of_mem hparse hobject
    obtain ⟨leaf, _, kind, hread⟩ := exists_leaf_of_mem hread hobject
    obtain ⟨rfl, hns⟩ := readObject_eq_some hread
    exact hns hkind
  others _ _ := readValue_of_other
  fails _ _ hdocument _ hleaf _ := exists_parse_eq_error hdocument hleaf
  fault _ _ := parse_eq_error_iff
  leafFault _ _ := readValue_eq_error_iff

end Manifest

end GatewayCompiler
