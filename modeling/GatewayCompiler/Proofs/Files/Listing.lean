import GatewayCompiler.Proofs.Files.Tree
import GatewayCompiler.Proofs.Manifest.Leaves
import Mathlib.Data.List.TakeWhile

/-!
# The order in which directories are listed

A directory lists its names in whatever order.  Its manifests are read in ascending order of their
names, so the order of the listing makes no difference: neither to the objects that are read nor to
the fault, which is that of the first file in the order of reading.  Such a file is parsed, or else
the fault says why it cannot be read.
-/

namespace GatewayCompiler

/-- Views of the same files, in which directories may list their names in different orders. -/
def FileView.Relists (view view' : FileView) : Prop :=
  ∀ path, view' path = view path ∨ ∃ names names' refusal,
    view path = .ok (.directory names refusal) ∧ view' path = .ok (.directory names' refusal) ∧
      names.Perm names'

/-- A path leads to something other than a directory, which has these bytes and may refuse to be
read. -/
def FileView.HasBytes (view : FileView) (path : String) (bytes : List UInt8)
    (refusal : Option FileError) : Prop :=
  view path = .ok (.file bytes refusal) ∨ view path = .ok (.stream bytes refusal)

namespace Manifest

/-- A name that ends in an extension of manifests, behind something else. -/
def HasExtension (name : String) : Prop :=
  ∃ stem extension, stem ≠ "" ∧ extension ∈ ["yaml", "yml", "json"] ∧
    name = stem ++ "." ++ extension

/-- The files to read for a path, told without an order of listing. -/
structure AreSourcesOf (view : FileView) (path : String) (sources : List String) : Prop where
  /-- A path that leads to no directory is to be read itself, and a directory that cannot be listed
  stands for itself. -/
  plain : (∀ names, view path ≠ .ok (.directory names none)) → sources = [path]
  /-- Of a directory, the regular files with an extension of manifests are, whether or not they can
  be read, in ascending order of their names. -/
  directory : ∀ names, view path = .ok (.directory names none) → ∃ files : List String,
    sources = files.map (joinPath path) ∧ files.Pairwise (· ≤ ·) ∧
      (∀ name, name ∈ files ↔ name ∈ names ∧ HasExtension name ∧
        ∃ bytes refusal, view (joinPath path name) = .ok (.file bytes refusal)) ∧
      ∀ name ∈ files, files.count name = names.count name

/-- What comes of one source: its text is parsed under its path, or a fault says why there is no
text. -/
inductive IsLoadedAs (view : FileView) (source : String) :
    Except Fault (List ApiObject) → Prop where
  | parsed {text : String} (h : view.HasBytes source (Text.utf8 text) none) :
      IsLoadedAs view source (parse source text)
  /-- The bytes are those of no text. -/
  | undecoded {bytes : List UInt8} (h : view.HasBytes source bytes none)
      (hbytes : ∀ text, bytes ≠ Text.utf8 text) :
      IsLoadedAs view source (.error (.file s!"Failed to read manifest {source}" .notUtf8))
  | refused {bytes : List UInt8} {reason : FileError}
      (h : view.HasBytes source bytes (some reason)) :
      IsLoadedAs view source (.error (.file s!"Failed to read manifest {source}" reason))
  | missing {reason : FileError} (h : view source = .error reason) :
      IsLoadedAs view source (.error (.file s!"Failed to read manifest {source}" reason))
  | unlisted {names : List String} {reason : FileError}
      (h : view source = .ok (.directory names (some reason))) :
      IsLoadedAs view source (.error (.file s!"Failed to list directory {source}" reason))
  /-- A directory that can be listed is the source of no path; it could not be read. -/
  | listed {names : List String} (h : view source = .ok (.directory names none)) :
      IsLoadedAs view source (.error (.file s!"Failed to read manifest {source}" .isADirectory))

/-- What comes of paths that are loaded. -/
structure LoadsInOrder (view : FileView) (paths : List String) : Prop where
  /-- The files to read for the paths are read one after another: either all can be read, and have
  these objects, or the fault is that of the first that cannot. -/
  reads : ∃ sources, List.Forall₂ (AreSourcesOf view) paths sources ∧
    (∀ objects, load view paths = .ok objects ↔ ∃ lists,
      List.Forall₂ (fun source list => IsLoadedAs view source (.ok list)) sources.flatten lists ∧
        lists.flatten = objects) ∧
    ∀ fault, load view paths = .error fault ↔ ∃ before source after,
      sources.flatten = before ++ source :: after ∧
        (∀ earlier ∈ before, ∃ list, IsLoadedAs view earlier (.ok list)) ∧
        IsLoadedAs view source (.error fault)
  /-- The order in which directories list their names makes no difference. -/
  relisted : ∀ view', view.Relists view' → load view' paths = load view paths

/-! Names of manifests -/

variable {name extension : String}

/-- What stands behind the last point of a name is its extension, if something stands before it. -/
theorem extension?_eq_some_iff : extension? name = some extension ↔
    ∃ stem, stem ≠ [] ∧ '.' ∉ extension.toList ∧ name.toList = stem ++ '.' :: extension.toList := by
  have hpieces := List.takeWhile_append_dropWhile (p := (· ≠ '.')) (l := name.toList.reverse)
  constructor
  · intro h
    unfold extension? at h
    dsimp only at h
    split at h
    · rename_i first rest hrest
      cases h
      have hplain : '.' ∉ name.toList.reverse.takeWhile (· ≠ '.') := by
        intro hmem
        simpa using List.mem_takeWhile_imp hmem
      rw [hrest] at hpieces
      generalize name.toList.reverse.takeWhile (· ≠ '.') = behind at hpieces hplain ⊢
      have hname := congrArg List.reverse hpieces
      rw [List.reverse_reverse] at hname
      refine ⟨(first :: rest).reverse, by simp, ?_, ?_⟩
      · rwa [String.toList_ofList, List.mem_reverse]
      · rw [← hname, String.toList_ofList]
        simp
    · cases h
  · rintro ⟨stem, hstem, hplain, hname⟩
    have hreversed : name.toList.reverse = extension.toList.reverse ++ '.' :: stem.reverse := by
      rw [hname, List.reverse_append, List.reverse_cons, List.append_assoc, List.singleton_append]
    have hbehind : ∀ c ∈ extension.toList.reverse, decide (c ≠ '.') = true := by
      intro c hc
      rw [decide_eq_true_eq]
      rintro rfl
      exact hplain (List.mem_reverse.1 hc)
    obtain ⟨first, rest, hfirst⟩ := List.exists_cons_of_ne_nil (mt List.reverse_eq_nil_iff.1 hstem)
    unfold extension?
    dsimp only
    rw [hreversed, List.dropWhile_append_of_pos hbehind, List.takeWhile_append_of_pos hbehind,
      hfirst]
    simp

theorem isManifestName_iff : isManifestName name = true ↔ HasExtension name := by
  simp only [isManifestName, Option.any_eq_true, List.contains_iff_mem, extension?_eq_some_iff]
  constructor
  · rintro ⟨extension, ⟨stem, hstem, -, hname⟩, hextension⟩
    refine ⟨String.ofList stem, extension, ?_, hextension, ?_⟩
    · rwa [ne_eq, ← String.toList_eq_nil_iff, String.toList_ofList]
    · rw [← String.toList_inj, hname]
      simp
  · rintro ⟨stem, extension, hstem, hextension, rfl⟩
    have hplain : ∀ extension ∈ ["yaml", "yml", "json"], '.' ∉ extension.toList := by decide
    refine ⟨extension, ⟨stem.toList, ?_, hplain extension hextension, ?_⟩, hextension⟩
    · rwa [ne_eq, String.toList_eq_nil_iff]
    · simp

/-! The order of reading -/

variable {view view' : FileView} {path : String}

theorem areSourcesOf_sourcesOf (view : FileView) (path : String) :
    AreSourcesOf view path (sourcesOf view path) where
  plain := sourcesOf_of_not_listed
  directory names h := by
    let ordered := (names.filter isManifestName).mergeSort fun a b => decide (a ≤ b)
    let isRead (name : String) : Bool := isFile view (joinPath path name)
    have hperm : ordered.Perm (names.filter isManifestName) := List.mergeSort_perm _ _
    refine ⟨ordered.filter isRead, ?_, ?_, ?_, ?_⟩
    · rw [sourcesOf, h]
      exact List.filter_map
    · exact (pairwise_mergeSort_names _).filter isRead
    · intro name
      rw [List.mem_filter, hperm.mem_iff, List.mem_filter, isManifestName_iff, and_assoc]
      exact and_congr_right fun _ => and_congr_right fun _ => isFile_iff
    · intro name hname
      obtain ⟨hordered, hread⟩ := List.mem_filter.1 hname
      have hmanifest := (List.mem_filter.1 (hperm.mem_iff.1 hordered)).2
      rw [List.count_filter hread, hperm.count_eq, List.count_filter hmanifest]

theorem readText_of_hasBytes {bytes : List UInt8} (h : view.HasBytes path bytes none) :
    readText view path = (Text.ofUtf8? bytes).elim (.error .notUtf8) .ok := by
  obtain hview | hview := h <;>
    rw [readText, hview, ok_bind, FileNode.read, ok_bind] <;>
    cases Text.ofUtf8? bytes <;> rfl

theorem loadSource_of_hasBytes {bytes : List UInt8} {refusal : Option FileError}
    (h : view.HasBytes path bytes refusal) : loadSource view path = loadFile view path := by
  obtain hview | hview := h <;> rw [loadSource, hview]

theorem IsLoadedAs.loadSource_eq {outcome : Except Fault (List ApiObject)}
    (h : IsLoadedAs view path outcome) : loadSource view path = outcome := by
  cases h with
  | parsed h =>
      rw [loadSource_of_hasBytes h, loadFile, readText_of_hasBytes h, Text.ofUtf8?_utf8]
      rfl
  | @undecoded bytes h hbytes =>
      have hnone : Text.ofUtf8? bytes = none := by
        apply Option.eq_none_iff_forall_ne_some.2
        intro text htext
        exact hbytes text (Text.ofUtf8?_eq_some_iff.1 htext)
      rw [loadSource_of_hasBytes h, loadFile, readText_of_hasBytes h, hnone]
      rfl
  | refused h =>
      rw [loadSource_of_hasBytes h, loadFile, readText]
      obtain hview | hview := h <;>
        rw [hview] <;> rfl
  | missing h =>
      rw [loadSource, h, loadFile, readText, h]
      rfl
  | unlisted h => rw [loadSource, h]
  | listed h =>
      rw [loadSource, h, loadFile, readText, h]
      rfl

theorem exists_isLoadedAs (view : FileView) (path : String) :
    ∃ outcome, IsLoadedAs view path outcome := by
  have hbytes (bytes : List UInt8) (refusal : Option FileError)
      (h : view.HasBytes path bytes refusal) : ∃ outcome, IsLoadedAs view path outcome := by
    cases refusal with
    | some reason => exact ⟨_, .refused h⟩
    | none =>
        by_cases htext : ∃ text, bytes = Text.utf8 text
        · obtain ⟨text, rfl⟩ := htext
          exact ⟨_, .parsed h⟩
        · exact ⟨_, .undecoded h (not_exists.1 htext)⟩
  rcases hview : view path with reason | ⟨bytes, refusal⟩ | ⟨names, _ | reason⟩ | ⟨bytes, refusal⟩
  · exact ⟨_, .missing hview⟩
  · exact hbytes bytes refusal (.inl hview)
  · exact ⟨_, .listed hview⟩
  · exact ⟨_, .unlisted hview⟩
  · exact hbytes bytes refusal (.inr hview)

/-- Something comes of every source, and it is what loading gives. -/
theorem isLoadedAs_iff {outcome : Except Fault (List ApiObject)} :
    IsLoadedAs view path outcome ↔ loadSource view path = outcome := by
  constructor
  · exact IsLoadedAs.loadSource_eq
  · rintro rfl
    obtain ⟨outcome, h⟩ := exists_isLoadedAs view path
    rwa [h.loadSource_eq]

theorem load_eq_ok_iff {paths : List String} {objects : List ApiObject} :
    load view paths = .ok objects ↔ ∃ lists,
      List.Forall₂ (fun source list => IsLoadedAs view source (.ok list)) (sources view paths)
        lists ∧ lists.flatten = objects := by
  simp only [load_eq_mapM, map_eq_ok, mapM_eq_ok_iff, isLoadedAs_iff]

theorem load_eq_error_iff {paths : List String} {fault : Fault} :
    load view paths = .error fault ↔ ∃ before source after,
      sources view paths = before ++ source :: after ∧
        (∀ earlier ∈ before, ∃ list, IsLoadedAs view earlier (.ok list)) ∧
        IsLoadedAs view source (.error fault) := by
  simp only [load_eq_mapM, map_eq_error, mapM_eq_error_iff, isLoadedAs_iff]

/-! Other orders of listing -/

theorem isFile_of_relists (h : view.Relists view') : isFile view' = isFile view := by
  funext path
  obtain hsame | ⟨names, names', refusal, hview, hview', _⟩ := h path
  · rw [isFile, isFile, hsame]
  · rw [isFile, isFile, hview, hview']

theorem loadSource_of_relists (h : view.Relists view') : loadSource view' = loadSource view := by
  funext path
  unfold loadSource loadFile readText
  obtain hsame | ⟨names, names', refusal, hview, hview', _⟩ := h path
  · rw [hsame]
  · rw [hview, hview']
    cases refusal <;> rfl

theorem sourcesOf_of_relists (h : view.Relists view') : sourcesOf view' = sourcesOf view := by
  funext path
  obtain hsame | ⟨names, names', refusal, hview, hview', hnames⟩ := h path
  · simp only [sourcesOf, filesIn, hsame, isFile_of_relists h]
  · cases refusal with
    | none => simp only [sourcesOf, filesIn, hview, hview', isFile_of_relists h,
        mergeSort_eq_of_perm (hnames.filter isManifestName)]
    | some reason => simp only [sourcesOf, hview, hview']

theorem load_of_relists (h : view.Relists view') (paths : List String) :
    load view' paths = load view paths := by
  rw [load_eq_mapM, load_eq_mapM, sources, sources, sourcesOf_of_relists h, loadSource_of_relists h]

/-- Paths are loaded in their order, and the files of a directory in the order of their names,
whatever the order of its listing. -/
theorem loadsInOrder_of_sources (view : FileView) (paths : List String) :
    LoadsInOrder view paths where
  reads := by
    refine ⟨paths.map (sourcesOf view), ?_, ?_, ?_⟩
    · rw [List.forall₂_map_right_iff, List.forall₂_same]
      exact fun path _ => areSourcesOf_sourcesOf view path
    · intro objects
      rw [← List.flatMap_def]
      exact load_eq_ok_iff
    · intro fault
      rw [← List.flatMap_def]
      exact load_eq_error_iff
  relisted _ h := load_of_relists h paths

end Manifest

/-! A tree in another order -/

namespace FileTree

variable {tree tree' : FileTree}

theorem lookup_eq_some_iff_mem {κ α : Type} [BEq κ] [LawfulBEq κ] {entries : List (κ × α)} {key : κ}
    {value : α} (h : (entries.map (·.1)).Nodup) :
    entries.lookup key = some value ↔ (key, value) ∈ entries := by
  induction entries with
  | nil => simp
  | cons entry entries ih =>
      rw [List.map_cons, List.nodup_cons] at h
      rw [List.lookup_cons, List.mem_cons]
      by_cases hkey : key = entry.1
      · have hlater : (key, value) ∉ entries := by
          intro hmem
          exact h.1 (hkey ▸ List.mem_map_of_mem hmem)
        rw [hkey, beq_self_eq_true, ← hkey, or_iff_left hlater, Prod.ext_iff, and_iff_right hkey,
          Option.some.injEq]
        exact eq_comm
      · have hhead : (key, value) ≠ entry := fun heq => hkey (congrArg Prod.fst heq)
        rw [beq_false_of_ne hkey, or_iff_right hhead]
        exact ih h.2

theorem lookup_eq_of_perm (hnodup : (tree.entries.map (·.1)).Nodup)
    (hperm : tree.entries.Perm tree'.entries) (way : List String) :
    tree'.entries.lookup way = tree.entries.lookup way := by
  apply Option.ext
  intro content
  rw [lookup_eq_some_iff_mem hnodup,
    lookup_eq_some_iff_mem ((hperm.map _).nodup_iff.1 hnodup), hperm.mem_iff]

/-- What is at a place stays there, but that a directory may list its names in another order. -/
theorem node?_of_perm (hnodup : (tree.entries.map (·.1)).Nodup)
    (hperm : tree.entries.Perm tree'.entries) (way : List String) :
    tree'.node? way = tree.node? way ∨ ∃ names names',
      tree.node? way = some (.directory names none) ∧
        tree'.node? way = some (.directory names' none) ∧ names.Perm names' := by
  have hnames : (tree.namesIn way).Perm (tree'.namesIn way) := by
    rw [namesIn_eq_filterMap, namesIn_eq_filterMap]
    exact (hperm.map _).filterMap _
  simp only [node?, lookup_eq_of_perm hnodup hperm]
  split_ifs with hroot
  · subst hroot
    exact .inr ⟨_, _, rfl, rfl, hnames⟩
  · rcases tree.entries.lookup way with _ | _ | content
    · exact .inl rfl
    · exact .inr ⟨_, _, rfl, rfl, hnames⟩
    · exact .inl rfl

theorem walk_of_perm (hnodup : (tree.entries.map (·.1)).Nodup)
    (hperm : tree.entries.Perm tree'.entries) (way steps : List String) :
    tree'.walk way steps = tree.walk way steps := by
  have hdirectory (way : List String) :
      tree'.requireDirectory way = tree.requireDirectory way := by
    obtain hsame | ⟨names, names', hnode, hnode', _⟩ := node?_of_perm hnodup hperm way
    · rw [requireDirectory, requireDirectory, hsame]
    · rw [requireDirectory, requireDirectory, hnode, hnode']
  induction steps generalizing way with
  | nil => rfl
  | cons step steps ih => rw [walk, walk, hdirectory, ih, ih, ih]

/-- The order of its entries is no choice of a file tree: it is the order of its listings. -/
theorem relists_of_perm (hnodup : (tree.entries.map (·.1)).Nodup)
    (hperm : tree.entries.Perm tree'.entries) : tree.view.Relists tree'.view := by
  intro path
  have hplace : tree'.place path = tree.place path := by
    simp only [place, walk_of_perm hnodup hperm]
  rw [view_eq_bind, view_eq_bind, hplace]
  cases tree.place path with
  | error reason => exact .inl rfl
  | ok way =>
      rw [ok_bind, ok_bind]
      obtain hsame | ⟨names, names', hnode, hnode', hnames⟩ := node?_of_perm hnodup hperm way
      · exact .inl (by rw [hsame])
      · exact .inr ⟨names, names', none, by rw [hnode], by rw [hnode'], hnames⟩

theorem load_view_of_perm (hnodup : (tree.entries.map (·.1)).Nodup)
    (hperm : tree.entries.Perm tree'.entries) (paths : List String) :
    Manifest.load tree'.view paths = Manifest.load tree.view paths :=
  Manifest.load_of_relists (relists_of_perm hnodup hperm) paths

end FileTree

end GatewayCompiler
