import GatewayCompiler.ManifestFiles
import GatewayCompiler.Proofs.Outcome
import GatewayCompiler.Proofs.Wire.Message
import Mathlib.Data.List.Sort
import Mathlib.Data.String.Basic

/-!
# Files that are written

A file system is looked at through paths and changes when a file is written.  The manifests that are
read afterwards are those that were read before, unless a path that is read leads to the file that
was written.
-/

namespace GatewayCompiler

/-- A directory, whether or not it can be listed. -/
def FileNode.IsDirectory (node : FileNode) : Prop :=
  ∃ names refusal, node = .directory names refusal

/-- How a view changes when a file is written that some paths lead to.  The file has the bytes that
were written, be it one that can be read or not; other paths lead to the files and directories that
they led to before.  A directory may have a new name, which is one of the file. -/
structure FileView.IsWritten (leads : String → Prop) (bytes : List UInt8)
    (before after : FileView) : Prop where
  written : ∀ path, leads path → ∃ refusal, after path = .ok (.file bytes refusal)
  other_iff : ∀ path node, ¬ leads path → ¬ node.IsDirectory →
    (after path = .ok node ↔ before path = .ok node)
  directory : ∀ path names refusal, ¬ leads path → before path = .ok (.directory names refusal) →
    ∃ listed added, after path = .ok (.directory listed refusal) ∧
      listed.Perm (names ++ added) ∧ ∀ name ∈ added, leads (Manifest.joinPath path name)
  was_directory : ∀ path listed refusal, ¬ leads path →
    after path = .ok (.directory listed refusal) →
      ∃ names, before path = .ok (.directory names refusal)

theorem FileView.IsWritten.file_iff {leads : String → Prop} {bytes content : List UInt8}
    {before after : FileView} (h : before.IsWritten leads bytes after) {path : String}
    {refusal : Option FileError} (hapart : ¬ leads path) :
    after path = .ok (.file content refusal) ↔ before path = .ok (.file content refusal) := by
  apply h.other_iff path _ hapart
  rintro ⟨_, _, hdirectory⟩
  cases hdirectory

/-- Files and directories that are looked at and written. -/
structure FileSystem where
  State : Type
  view : State → FileView
  /-- Writes a file anew, if the path is one that a file can be written to. -/
  write : State → String → List UInt8 → Except FileError State
  /-- Whether a path leads to the file that another path is written to. -/
  LeadsTo : State → String → String → Prop
  isWritten_write : ∀ state path bytes next, write state path bytes = .ok next →
    (view state).IsWritten (LeadsTo next · path) bytes (view next)
  exists_write : ∀ state path bytes next, write state path bytes = .ok next →
    ∀ other, ∃ last, write next path other = .ok last

namespace Manifest

/-- The files that are read for a path.  A directory that cannot be listed stands for itself. -/
def sourcesOf (view : FileView) (path : String) : List String :=
  match view path with
  | .ok (.directory names none) => filesIn view path names
  | _ => [path]

/-- The files that are read for all paths, in order. -/
def sources (view : FileView) (paths : List String) : List String :=
  paths.flatMap (sourcesOf view)

/-- The objects of a file, or the fault of a directory that cannot be listed. -/
def loadSource (view : FileView) (source : String) : Except Fault (List ApiObject) :=
  match view source with
  | .ok (.directory _ (some reason)) =>
    .error (.file s!"Failed to list directory {source}" reason)
  | _ => loadFile view source

variable {view : FileView} {path : String}

theorem isFile_iff : isFile view path = true ↔
    ∃ bytes refusal, view path = .ok (.file bytes refusal) := by
  rw [isFile]
  split
  · rename_i bytes refusal hview
    exact iff_of_true rfl ⟨bytes, refusal, hview⟩
  · rename_i hview
    constructor
    · intro h
      cases h
    · rintro ⟨bytes, refusal, hfile⟩
      exact absurd hfile (hview bytes refusal)

theorem loadSource_of_isFile (h : isFile view path = true) :
    loadSource view path = loadFile view path := by
  obtain ⟨bytes, refusal, hview⟩ := isFile_iff.1 h
  rw [loadSource, hview]

theorem mapM_loadSource_filesIn (directory : String) (names : List String) :
    (filesIn view directory names).mapM (loadSource view) =
      (filesIn view directory names).mapM (loadFile view) := by
  apply mapM_congr
  intro source hsource
  exact loadSource_of_isFile (List.mem_filter.1 hsource).2

theorem loadPath_eq_mapM (view : FileView) (path : String) :
    loadPath view path = ((sourcesOf view path).mapM (loadSource view)).map List.flatten := by
  have hself : loadSource view path = ([path].mapM (loadSource view)).map List.flatten := by
    rw [List.mapM_cons, List.mapM_nil]
    cases loadSource view path with
    | error fault => rfl
    | ok objects => exact congrArg Except.ok (List.append_nil objects).symm
  rcases hview : view path with reason | ⟨bytes, refusal⟩ | ⟨names, _ | reason⟩ | ⟨bytes, refusal⟩
  case ok.directory.none =>
    simp only [loadPath, sourcesOf, hview, mapM_loadSource_filesIn]
  all_goals simpa only [loadPath, sourcesOf, loadSource, hview] using hself

/-- The manifests of paths are those of their files, one after another. -/
theorem load_eq_mapM (view : FileView) (paths : List String) :
    load view paths = ((sources view paths).mapM (loadSource view)).map List.flatten := by
  induction paths with
  | nil => rfl
  | cons path paths ih =>
      rw [load] at ih
      rw [load, List.mapM_cons, sources, List.flatMap_cons, ← sources, List.mapM_append,
        loadPath_eq_mapM]
      cases (sourcesOf view path).mapM (loadSource view) with
      | error fault => rfl
      | ok first =>
          cases hrest : paths.mapM (loadPath view) with
          | error fault =>
              rw [hrest] at ih
              have herror := map_eq_error.1 ih.symm
              show Except.error fault = ((sources view paths).mapM (loadSource view) >>= _).map _
              rw [herror]
              rfl
          | ok rest =>
              rw [hrest] at ih
              obtain ⟨lists, hlists, hflatten⟩ := map_eq_ok.1 ih.symm
              show Except.ok ((first.flatten :: rest).flatten) =
                ((sources view paths).mapM (loadSource view) >>= _).map _
              rw [hlists, List.flatten_cons, ← hflatten, ← List.flatten_append]
              rfl

theorem sources_of_file {bytes : List UInt8} {refusal : Option FileError}
    (h : view path = .ok (.file bytes refusal)) : sources view [path] = [path] := by
  rw [sources, List.flatMap_singleton, sourcesOf, h]

/-- Of a directory of manifests, every file is read, in ascending order. -/
theorem sources_of_directory {names : List String} (h : view path = .ok (.directory names none))
    (hnames : ∀ name ∈ names, isManifestName name = true) (hsorted : names.Pairwise (· ≤ ·))
    (hfiles : ∀ source ∈ names.map (joinPath path), isFile view source = true) :
    sources view [path] = names.map (joinPath path) := by
  have hmerged : names.mergeSort (fun a b => decide (a ≤ b)) = names :=
    List.mergeSort_of_pairwise (hsorted.imp decide_eq_true)
  rw [sources, List.flatMap_singleton, sourcesOf, h]
  simp only [filesIn]
  rw [List.filter_eq_self.2 hnames, hmerged, List.filter_eq_self.2 hfiles]

theorem mem_filesIn_iff {directory : String} {names : List String} :
    path ∈ filesIn view directory names ↔
      ∃ name ∈ names, isManifestName name = true ∧ joinPath directory name = path ∧
        isFile view path = true := by
  simp only [filesIn, List.mem_filter, List.mem_map, List.mem_mergeSort]
  constructor
  · rintro ⟨⟨name, ⟨hname, hmanifest⟩, hjoin⟩, hfile⟩
    exact ⟨name, hname, hmanifest, hjoin, hfile⟩
  · rintro ⟨name, hname, hmanifest, hjoin, hfile⟩
    exact ⟨⟨name, ⟨hname, hmanifest⟩, hjoin⟩, hfile⟩

theorem pairwise_mergeSort_names (names : List String) :
    (names.mergeSort fun a b => decide (a ≤ b)).Pairwise (· ≤ ·) := by
  apply (List.pairwise_mergeSort _ _ names).imp of_decide_eq_true
  · intro a b c hab hbc
    rw [decide_eq_true_eq] at hab hbc ⊢
    exact le_trans hab hbc
  · intro a b
    rw [Bool.or_eq_true, decide_eq_true_eq, decide_eq_true_eq]
    exact le_total a b

/-- Names have one order, whatever order they are listed in. -/
theorem mergeSort_eq_of_perm {names names' : List String} (h : names.Perm names') :
    names.mergeSort (fun a b => decide (a ≤ b)) = names'.mergeSort fun a b => decide (a ≤ b) := by
  refine List.Perm.eq_of_pairwise ?_ (pairwise_mergeSort_names names)
    (pairwise_mergeSort_names names') ?_
  · intro a b _ _ hab hba
    exact le_antisymm hab hba
  · exact (List.mergeSort_perm names _).trans (h.trans (List.mergeSort_perm names' _).symm)

section Written

variable {leads : String → Prop} {bytes : List UInt8} {before after : FileView}

/-- What has been loaded was there, and was no directory. -/
theorem exists_node_of_loadSource {objects : List ApiObject}
    (h : loadSource before path = .ok objects) :
    ∃ node : FileNode, before path = .ok node ∧ ¬ node.IsDirectory := by
  unfold loadSource loadFile readText at h
  rcases hview : before path with reason | ⟨content, refusal⟩ | ⟨names, _ | reason⟩ |
    ⟨content, refusal⟩
  case ok.file => exact ⟨_, rfl, by rintro ⟨_, _, ⟨⟩⟩⟩
  case ok.stream => exact ⟨_, rfl, by rintro ⟨_, _, ⟨⟩⟩⟩
  all_goals
    rw [hview] at h
    cases h

theorem loadSource_of_isWritten (h : before.IsWritten leads bytes after) (hapart : ¬ leads path)
    {objects : List ApiObject} (hload : loadSource before path = .ok objects) :
    loadSource after path = .ok objects := by
  obtain ⟨node, hbefore, hnode⟩ := exists_node_of_loadSource hload
  have hafter := (h.other_iff path node hapart hnode).2 hbefore
  unfold loadSource loadFile readText at hload ⊢
  rwa [hafter, ← hbefore]

/-- The files of a directory that are read after a write are those that were read before it, if the
written one is not among them. -/
theorem filesIn_of_isWritten (h : before.IsWritten leads bytes after)
    {names listed added : List String} (hlisted : listed.Perm (names ++ added))
    (hadded : ∀ name ∈ added, leads (joinPath path name))
    (hapart : ∀ source ∈ filesIn after path listed, ¬ leads source) :
    filesIn after path listed = filesIn before path names := by
  have hread : ∀ name ∈ listed, isManifestName name = true → ¬ leads (joinPath path name) := by
    intro name hname hmanifest hleads
    have hfile : isFile after (joinPath path name) = true :=
      isFile_iff.2 ⟨bytes, h.written _ hleads⟩
    exact hapart _ (mem_filesIn_iff.2 ⟨name, hname, hmanifest, rfl, hfile⟩) hleads
  have hnew : added.filter isManifestName = [] := by
    rw [List.filter_eq_nil_iff]
    intro name hname hmanifest
    have hmem : name ∈ listed := hlisted.mem_iff.2 (List.mem_append_right names hname)
    exact hread name hmem hmanifest (hadded name hname)
  have hnames : (listed.filter isManifestName).Perm (names.filter isManifestName) := by
    have hperm := hlisted.filter isManifestName
    rwa [List.filter_append, hnew, List.append_nil] at hperm
  rw [filesIn, filesIn, mergeSort_eq_of_perm hnames]
  apply List.filter_congr
  intro source hsource
  obtain ⟨name, hname, rfl⟩ := List.mem_map.1 hsource
  rw [List.mem_mergeSort, ← hnames.mem_iff, List.mem_filter] at hname
  have hleads := hread name hname.1 hname.2
  rw [Bool.eq_iff_iff, isFile_iff, isFile_iff]
  simp only [h.file_iff hleads]

theorem sourcesOf_of_not_listed (h : ∀ names, view path ≠ .ok (.directory names none)) :
    sourcesOf view path = [path] := by
  rw [sourcesOf]
  split
  · rename_i names hnames
    exact absurd hnames (h names)
  · rfl

theorem sourcesOf_of_isWritten (h : before.IsWritten leads bytes after)
    (hapart : ∀ source ∈ sourcesOf after path, ¬ leads source) :
    sourcesOf after path = sourcesOf before path := by
  have hleads : ¬ leads path := by
    intro hleads
    obtain ⟨refusal, hwritten⟩ := h.written path hleads
    rw [sourcesOf, hwritten] at hapart
    exact hapart path List.mem_cons_self hleads
  by_cases hdirectory : ∃ names, before path = .ok (.directory names none)
  · obtain ⟨names, hnames⟩ := hdirectory
    obtain ⟨listed, added, hlisted, hperm, hadded⟩ := h.directory path names none hleads hnames
    rw [sourcesOf, hlisted] at hapart ⊢
    rw [sourcesOf, hnames]
    exact filesIn_of_isWritten h hperm hadded hapart
  · have hbefore : ∀ names, before path ≠ .ok (.directory names none) :=
      not_exists.1 hdirectory
    have hafter : ∀ listed, after path ≠ .ok (.directory listed none) := by
      intro listed hlisted
      exact hdirectory (h.was_directory path listed none hleads hlisted)
    rw [sourcesOf_of_not_listed hafter, sourcesOf_of_not_listed hbefore]

theorem sources_of_isWritten (h : before.IsWritten leads bytes after) {paths : List String}
    (hapart : ∀ source ∈ sources after paths, ¬ leads source) :
    sources after paths = sources before paths := by
  rw [sources, sources, List.flatMap_def, List.flatMap_def]
  congr 1
  apply List.map_congr_left
  intro path hpath
  apply sourcesOf_of_isWritten h
  intro source hsource
  exact hapart source (List.mem_flatMap.2 ⟨path, hpath, hsource⟩)

/-- Writing a file that is not read as a manifest does not change what the manifests hold. -/
theorem load_of_isWritten (h : before.IsWritten leads bytes after) {paths : List String}
    (hapart : ∀ source ∈ sources after paths, ¬ leads source) {objects : List ApiObject}
    (hload : load before paths = .ok objects) : load after paths = .ok objects := by
  rw [load_eq_mapM, map_eq_ok] at hload ⊢
  obtain ⟨lists, hlists, rfl⟩ := hload
  have hsources := sources_of_isWritten h hapart
  refine ⟨lists, ?_, rfl⟩
  rw [hsources] at hapart ⊢
  apply mapM_eq_ok_of_imp hlists
  intro source hsource list hlist
  exact loadSource_of_isWritten h (hapart source hsource) hlist

end Written

/-! Files of one document -/

variable {source text : String}

theorem parse_of_document {json : Json} (h : Yaml.documents text = [.value json]) :
    parse source text = readValue source json := by
  rw [parse, h, List.zipIdx_singleton, List.mapM_cons, List.mapM_nil]
  show (readValue source json >>= _) >>= _ = _
  cases readValue source json with
  | error fault => rfl
  | ok objects => exact congrArg Except.ok (List.append_nil objects)

/-- A text of one document is told by a look at its value. -/
theorem exists_document {β : Type} {look : Json → β} {seen : β}
    (h : (Yaml.documents text).map (·.value?.map look) = [some seen]) :
    ∃ json, Yaml.documents text = [.value json] ∧ look json = seen := by
  obtain ⟨document, hdocuments, hdocument⟩ := List.map_eq_singleton_iff.1 h
  obtain ⟨json, hvalue, hjson⟩ := Option.map_eq_some_iff.1 hdocument
  obtain rfl : document = .value json := by
    cases document with
    | value found => exact congrArg Yaml.Document.value (Option.some.inj hvalue)
    | _ => cases hvalue
  exact ⟨json, hdocuments, hjson⟩

/-- A document without a kind is no manifest, whatever else it has. -/
theorem parse_of_kindless
    (h : (Yaml.documents text).map (·.value?.map fun json => (json.field? "kind").isSome) =
      [some false]) : parse source text = .error (.manifest source "object without a 'kind'") := by
  obtain ⟨json, hdocuments, hkind⟩ := exists_document h
  have hnone : json.field? "kind" = none := by simpa using hkind
  rw [parse_of_document hdocuments, readValue, kindOf, hnone]
  rfl

theorem parse_of_object {kind : String} {object : Option ApiObject} (hlist : kind ≠ "List")
    (h : (Yaml.documents text).map (·.value?.map fun json =>
      (kindOf source json, readObject source kind json)) = [some (.ok kind, .ok object)]) :
    parse source text = .ok object.toList := by
  obtain ⟨json, hdocuments, hjson⟩ := exists_document h
  obtain ⟨hkind, hobject⟩ := Prod.mk.inj hjson
  rw [parse_of_document hdocuments, readValue, hkind, ok_bind, if_neg hlist, hobject]
  rfl

theorem loadSource_of_text {view : FileView} {path text : String}
    (h : view path = .ok (.file (Text.utf8 text) none)) :
    loadSource view path = parse path text := by
  rw [loadSource_of_isFile (isFile_iff.2 ⟨_, _, h⟩), loadFile, readText, h, ok_bind, FileNode.read,
    ok_bind, Text.ofUtf8?_utf8]
  rfl

end Manifest

end GatewayCompiler
