import GatewayCompiler.Proofs.Files.Tree
import GatewayCompiler.Run

/-!
# Runs that are repeated

A run that has written its document leaves files behind for the next run with the same arguments.
The next run hands out the same resources, unless it comes across the document among its manifests.
-/

namespace GatewayCompiler

namespace Run

variable {files : FileSystem} {state next : files.State} {arguments : Arguments}
  {env : Environment} {version : String} {output : Output}

/-- Leaves an output at its destination. -/
def leave (files : FileSystem) (state : files.State) (output : Output) :
    Except RunFault files.State :=
  match output.destination with
  | .standardOutput => .ok state
  | .file path => (files.write state path (Text.utf8 output.text)).mapError fun reason =>
      .writing path reason.message

/-- A whole run: what it hands out, and the files that it leaves behind. -/
def execute (files : FileSystem) (state : files.State) (arguments : Arguments) (env : Environment)
    (version : String) : Except RunFault (Output × files.State) := do
  let output ← (Run.output arguments env (files.view state) version).outcome
  return (output, ← leave files state output)

/-- Whether one of the files that a run reads as manifests is the one that it writes. -/
def ReadsOutput (files : FileSystem) (state : files.State) (arguments : Arguments) : Prop :=
  ∃ path, arguments.destination = .file path ∧
    ∃ source ∈ Manifest.sources (files.view state) arguments.manifests,
      files.LeadsTo state source path

/-- A run can be repeated if it succeeds again, under any version, on the files that it has left
behind, and hands out a document with the same resources. -/
def IsRepeated (files : FileSystem) (next : files.State) (arguments : Arguments) (env : Environment)
    (version : String) (output : Output) : Prop :=
  ∃ document : Document, document.version = version ∧
    output = Output.ofDocument arguments.destination document ∧
    ∀ version', ∃ last, execute files next arguments env version' =
      .ok (Output.ofDocument arguments.destination { document with version := version' }, last)

/-- A run on a tree leaves something behind exactly when there is a place for it. -/
theorem map_leave_tree (tree : FileTree) (output : Output) :
    (leave FileTree.system tree output).map (fun _ => ()) = deliver tree output := by
  unfold leave deliver
  cases output.destination with
  | standardOutput => rfl
  | file path =>
      show ((tree.write path (Text.utf8 output.text)).mapError _).map _ =
        (tree.checkWritable path).mapError _
      rw [← FileTree.map_write tree path (Text.utf8 output.text)]
      cases tree.write path (Text.utf8 output.text) <;> rfl

/-- A run succeeds where its manifests can be read and translated. -/
theorem output_eq_ok_iff {view : FileView} :
    (Run.output arguments env view version).outcome = .ok output ↔
      ∃ graph, (Run.graph arguments env view).outcome = .ok graph ∧
        Output.ofDocument arguments.destination (Document.ofGraph version graph) = output := by
  rw [Run.output, Report.outcome_bind_eq_ok]
  simp only [Report.outcome_pure, Except.ok.injEq]

theorem exists_load_of_graph {view : FileView} {graph : Graph}
    (h : (Run.graph arguments env view).outcome = .ok graph) :
    ∃ objects, Manifest.load view arguments.manifests = .ok objects := by
  rw [Run.graph, Report.outcome_bind_eq_ok] at h
  obtain ⟨_, _, h⟩ := h
  obtain ⟨settings, _, h⟩ := Report.outcome_bind_eq_ok.1 h
  obtain ⟨found, hfound, _⟩ := Report.outcome_bind_eq_ok.1 h
  rw [Report.outcome_mapFault_eq_ok, snapshot, Report.outcome_bind_eq_ok] at hfound
  obtain ⟨objects, hobjects, _⟩ := hfound
  exact ⟨objects, hobjects⟩

/-- A run knows the files by their manifests only. -/
theorem graph_congr {view view' : FileView}
    (h : Manifest.load view arguments.manifests = Manifest.load view' arguments.manifests) :
    Run.graph arguments env view = Run.graph arguments env view' := by
  rw [Run.graph, Run.graph, snapshot, snapshot, h]

theorem destination_ofDocument (destination : Destination) (document : Document) :
    (Output.ofDocument destination document).destination = destination := by
  cases destination <;> rfl

/-- What a run leaves behind can be left behind again. -/
theorem exists_leave {other : Output} (h : leave files state output = .ok next)
    (hdestination : other.destination = output.destination) :
    ∃ last, leave files next other = .ok last := by
  rw [leave] at h ⊢
  rw [hdestination]
  cases hpath : output.destination with
  | standardOutput => exact ⟨next, rfl⟩
  | file path =>
      rw [hpath] at h
      obtain ⟨last, hlast⟩ := files.exists_write state path _ next (mapError_eq_ok.1 h)
        (Text.utf8 other.text)
      exact ⟨last, mapError_eq_ok.2 hlast⟩

/-- What a run leaves behind does not change its manifests if it is none of them. -/
theorem load_of_leave {objects : List ApiObject} (h : leave files state output = .ok next)
    (hdestination : output.destination = arguments.destination)
    (hapart : ¬ ReadsOutput files next arguments)
    (hload : Manifest.load (files.view state) arguments.manifests = .ok objects) :
    Manifest.load (files.view next) arguments.manifests = .ok objects := by
  rw [leave] at h
  cases hpath : output.destination with
  | standardOutput =>
      rw [hpath] at h
      cases h
      exact hload
  | file path =>
      rw [hpath] at h
      have hwritten := files.isWritten_write state path _ next (mapError_eq_ok.1 h)
      refine Manifest.load_of_isWritten hwritten ?_ hload
      intro source hsource hleads
      exact hapart ⟨path, hdestination ▸ hpath, source, hsource, hleads⟩

theorem execute_of_output (houtput : (Run.output arguments env (files.view state) version).outcome =
    .ok output) (hleave : leave files state output = .ok next) :
    execute files state arguments env version = .ok (output, next) := by
  rw [execute, houtput, ok_bind, hleave]
  rfl

/-- A run that succeeds can be repeated if it does not read what it writes. -/
theorem isRepeated_of_execute
    (h : execute files state arguments env version = .ok (output, next))
    (hapart : ¬ ReadsOutput files next arguments) :
    IsRepeated files next arguments env version output := by
  obtain ⟨found, hfound, h⟩ := bind_eq_ok.1 h
  obtain ⟨left, hleave, ⟨⟩⟩ := bind_eq_ok.1 h
  obtain ⟨graph, hgraph, rfl⟩ := output_eq_ok_iff.1 hfound
  obtain ⟨objects, hobjects⟩ := exists_load_of_graph hgraph
  have hload := load_of_leave hleave (destination_ofDocument _ _) hapart hobjects
  have hagain : (Run.graph arguments env (files.view next)).outcome = .ok graph := by
    rw [graph_congr (hload.trans hobjects.symm), hgraph]
  refine ⟨Document.ofGraph version graph, rfl, rfl, ?_⟩
  intro version'
  have houtput : (Run.output arguments env (files.view next) version').outcome =
      .ok (Output.ofDocument arguments.destination (Document.ofGraph version' graph)) :=
    output_eq_ok_iff.2 ⟨graph, hagain, rfl⟩
  obtain ⟨last, hlast⟩ := exists_leave hleave
    ((destination_ofDocument _ (Document.ofGraph version' graph)).trans
      (destination_ofDocument _ _).symm)
  exact ⟨last, execute_of_output houtput hlast⟩

end Run

/-! Runs on one tree -/

namespace Sample

def bareGateway : Gateway :=
  ⟨⟨"edge", some "infra", ∅⟩, "envoy", []⟩

def manifest : String :=
  "kind: Gateway\nmetadata:\n  name: edge\n  namespace: infra\nspec:\n  gatewayClassName: envoy\n"

/-- One manifest in the working directory. -/
def tree : FileTree :=
  ⟨[(["edge.yaml"], some (Text.utf8 manifest))]⟩

/-- A command line that names these manifests and no output. -/
def reading (manifests : List String) : Arguments :=
  ⟨"edge", "infra", manifests, Arguments.defaultOutput, false, none, none, none, none, none⟩

/-- The environment in which nothing is set. -/
def bareEnvironment : Environment :=
  fun _ => none

/-- The document of a Gateway without listeners. -/
def bareDocument (version : String) : Document :=
  Document.ofGraph version ∅

/-- The tree after a run that has written these bytes. -/
def treeWith (bytes : List UInt8) : FileTree :=
  tree.put ["envoy-xds.json"] bytes

theorem isTarget_tree : tree.IsTarget "envoy-xds.json" [] "envoy-xds.json" where
  relative := FileTree.relative_iff.2 ⟨_, _, rfl, by decide⟩
  walk_eq := by decide
  steps_eq := by decide
  directory := by decide
  stay := by decide
  up := by decide
  free := by
    intro node hnode
    cases hnode

theorem place_manifest : tree.place "edge.yaml" = .ok ["edge.yaml"] :=
  FileTree.place_of_walk rfl (by decide) (by decide)

theorem place_listed_manifest : tree.place "./edge.yaml" = .ok ["edge.yaml"] :=
  FileTree.place_of_walk rfl (by decide) (by decide)

theorem place_listed_document : tree.place "./envoy-xds.json" = .ok ["envoy-xds.json"] :=
  FileTree.place_of_walk rfl (by decide) (by decide)

theorem place_directory : tree.place "." = .ok [] :=
  FileTree.place_of_walk rfl (by decide) (by decide)

theorem view_tree {path : String} (hplace : tree.place path = .ok ["edge.yaml"]) :
    tree.view path = .ok (.file (Text.utf8 manifest) none) :=
  FileTree.view_eq_ok_iff.2 ⟨_, hplace, rfl⟩

/-- The places in the tree after a run are those before it. -/
theorem view_treeWith {bytes : List UInt8} {path : String} {way : List String} {node : FileNode}
    (hplace : tree.place path = .ok way) (hnode : (treeWith bytes).node? way = some node) :
    (treeWith bytes).view path = .ok node :=
  FileTree.view_eq_ok_iff.2
    ⟨way, (FileTree.place_put_eq_ok_iff (by decide) isTarget_tree.free).2 hplace, hnode⟩

theorem joinPath_directory (name : String) : Manifest.joinPath "." name = "." ++ "/" ++ name := by
  have hends : ¬ ".".endsWith "/" = true := by
    decide +kernel
  rw [Manifest.joinPath, if_neg hends]
  rfl

theorem sources_tree : Manifest.sources tree.view ["."] = ["./edge.yaml"] := by
  have hview : tree.view "." = .ok (.directory ["edge.yaml"] none) :=
    FileTree.view_eq_ok_iff.2 ⟨[], place_directory, rfl⟩
  have hpaths : ["edge.yaml"].map (Manifest.joinPath ".") = ["./edge.yaml"] :=
    congrArg ([·]) (joinPath_directory "edge.yaml")
  rw [Manifest.sources_of_directory hview (by decide) (by decide), hpaths]
  rw [hpaths, List.forall_mem_singleton, Manifest.isFile_iff]
  exact ⟨_, _, view_tree place_listed_manifest⟩

theorem sources_treeWith (bytes : List UInt8) :
    Manifest.sources (treeWith bytes).view ["."] = ["./edge.yaml", "./envoy-xds.json"] := by
  have hview : (treeWith bytes).view "." = .ok (.directory ["edge.yaml", "envoy-xds.json"] none) :=
    view_treeWith place_directory rfl
  have hpaths : ["edge.yaml", "envoy-xds.json"].map (Manifest.joinPath ".") =
      ["./edge.yaml", "./envoy-xds.json"] := by
    rw [List.map_cons, List.map_singleton, joinPath_directory, joinPath_directory]
    rfl
  rw [Manifest.sources_of_directory hview (by decide) (by decide), hpaths]
  rw [hpaths, List.forall_mem_cons, List.forall_mem_singleton, Manifest.isFile_iff,
    Manifest.isFile_iff]
  exact ⟨⟨_, _, view_treeWith place_listed_manifest rfl⟩,
    ⟨_, _, view_treeWith place_listed_document rfl⟩⟩

/-- Whatever manifests hold the Gateway alone, a run hands out the document without resources. -/
theorem output_reading {manifests : List String} {view : FileView} (version : String)
    (hload : Manifest.load view manifests = .ok [.gateway bareGateway]) :
    (Run.output (reading manifests) bareEnvironment view version).outcome =
      .ok (Output.ofDocument (.file "envoy-xds.json") (bareDocument version)) := by
  have hlog : (reading manifests).logSettings bareEnvironment = .ok LogSettings.default := by
    rfl
  have hsettings : (reading manifests).settings bareEnvironment = .ok Settings.default := by
    show (reading []).settings bareEnvironment = _
    rfl
  have hsnapshot : (Run.snapshot (reading manifests) view).outcome =
      .ok ((∅ : Snapshot).insert (.gateway bareGateway)) := by
    rw [Run.snapshot, Report.outcome_bind_eq_ok]
    exact ⟨_, hload, rfl⟩
  have htranslated : ((Translator.ofSettings ((∅ : Snapshot).insert (.gateway bareGateway))
      Settings.default).translate ⟨"infra", "edge"⟩).outcome = .ok ∅ := by
    rfl
  refine Run.output_eq_ok_iff.2 ⟨∅, ?_, rfl⟩
  rw [Run.graph]
  refine Report.outcome_bind_eq_ok.2 ⟨_, Report.outcome_mapFault_eq_ok.2 hlog, ?_⟩
  refine Report.outcome_bind_eq_ok.2 ⟨_, Report.outcome_mapFault_eq_ok.2 hsettings, ?_⟩
  exact Report.outcome_bind_eq_ok.2 ⟨_, Report.outcome_mapFault_eq_ok.2 hsnapshot,
    Report.outcome_mapFault_eq_ok.2 htranslated⟩

theorem execute_reading {manifests : List String} (version : String)
    (hload : Manifest.load tree.view manifests = .ok [.gateway bareGateway]) :
    Run.execute FileTree.system tree (reading manifests) bareEnvironment version =
      .ok (Output.ofDocument (.file "envoy-xds.json") (bareDocument version),
        treeWith (Text.utf8 (bareDocument version).text)) := by
  have hwrite : tree.write "envoy-xds.json" (Text.utf8 (bareDocument version).text) =
      .ok (treeWith (Text.utf8 (bareDocument version).text)) :=
    FileTree.write_eq_ok_iff.2 ⟨_, _, isTarget_tree, rfl⟩
  have hleave : Run.leave FileTree.system tree
      (Output.ofDocument (.file "envoy-xds.json") (bareDocument version)) =
        .ok (treeWith (Text.utf8 (bareDocument version).text)) :=
    mapError_eq_ok.2 hwrite
  exact Run.execute_of_output (output_reading version hload) hleave

theorem parse_manifest {source : String} (h : source ∈ ["edge.yaml", "./edge.yaml"]) :
    Manifest.parse source manifest = .ok [.gateway bareGateway] := by
  have hdocument : ∀ source ∈ ["edge.yaml", "./edge.yaml"],
      (Yaml.documents manifest).map (·.value?.map fun json =>
        (Manifest.kindOf source json, Manifest.readObject source "Gateway" json)) =
          [some (.ok "Gateway", .ok (some (.gateway bareGateway)))] := by
    decide +kernel
  exact Manifest.parse_of_object (by decide) (hdocument source h)

theorem loadSource_manifest {view : FileView} {source : String}
    (hsource : source ∈ ["edge.yaml", "./edge.yaml"])
    (hview : view source = .ok (.file (Text.utf8 manifest) none)) :
    Manifest.loadSource view source = .ok [.gateway bareGateway] := by
  rw [Manifest.loadSource_of_text hview, parse_manifest hsource]

theorem load_tree {path source : String} (hsource : source ∈ ["edge.yaml", "./edge.yaml"])
    (hsources : Manifest.sources tree.view [path] = [source])
    (hplace : tree.place source = .ok ["edge.yaml"]) :
    Manifest.load tree.view [path] = .ok [.gateway bareGateway] := by
  rw [Manifest.load_eq_mapM, hsources, List.mapM_cons, List.mapM_nil,
    loadSource_manifest hsource (view_tree hplace)]
  rfl

/-- The document is no manifest. -/
theorem load_treeWith_document :
    Manifest.load (treeWith (Text.utf8 (bareDocument "1").text)).view ["."] =
      .error (.manifest "./envoy-xds.json" "object without a 'kind'") := by
  have hkindless : (Yaml.documents (bareDocument "1").text).map (·.value?.map fun json =>
      (json.field? "kind").isSome) = [some false] := by
    -- The text is read as the characters that it is made of.
    rw [Document.text, Json.indented, Yaml.documents, Yaml.tokens, String.toList_ofList]
    decide +kernel
  rw [Manifest.load_eq_mapM, sources_treeWith, List.mapM_cons, List.mapM_cons,
    loadSource_manifest (by decide) (view_treeWith place_listed_manifest rfl),
    Manifest.loadSource_of_text (view_treeWith place_listed_document rfl),
    Manifest.parse_of_kindless hkindless]
  rfl

end Sample

/-- A run that reads a file and writes another can be repeated. -/
theorem Run.isRepeated_of_apart : ∃ output next,
    execute FileTree.system Sample.tree (Sample.reading ["edge.yaml"]) Sample.bareEnvironment "1" =
      .ok (output, next) ∧
    ¬ ReadsOutput FileTree.system next (Sample.reading ["edge.yaml"]) ∧
    IsRepeated FileTree.system next (Sample.reading ["edge.yaml"]) Sample.bareEnvironment "1"
      output := by
  have hsources := Manifest.sources_of_file (Sample.view_tree Sample.place_manifest)
  have hrun := Sample.execute_reading "1"
    (Sample.load_tree (by decide) hsources Sample.place_manifest)
  have hapart : ¬ ReadsOutput FileTree.system
      (Sample.treeWith (Text.utf8 (Sample.bareDocument "1").text))
      (Sample.reading ["edge.yaml"]) := by
    rintro ⟨path, hpath, source, hsource, hleads⟩
    obtain rfl : "envoy-xds.json" = path := Destination.file.inj hpath
    have hview : (Sample.treeWith (Text.utf8 (Sample.bareDocument "1").text)).view "edge.yaml" =
        .ok (.file (Text.utf8 Sample.manifest) none) :=
      Sample.view_treeWith Sample.place_manifest rfl
    obtain rfl : source = "edge.yaml" :=
      List.mem_singleton.1 (Manifest.sources_of_file hview ▸ hsource)
    have hwritten := Sample.isTarget_tree.leadsTo_put_iff.1 hleads
    rw [Sample.place_manifest] at hwritten
    exact absurd hwritten (by decide)
  exact ⟨_, _, hrun, hapart, isRepeated_of_execute hrun hapart⟩

/-- A run that reads the directory that it writes its document to cannot be repeated: the next one
takes the document for a manifest. -/
theorem Run.not_isRepeated_of_directory : ∃ output next,
    execute FileTree.system Sample.tree (Sample.reading ["."]) Sample.bareEnvironment "1" =
      .ok (output, next) ∧
    Manifest.load (FileTree.system.view next) ["."] =
      .error (.manifest "./envoy-xds.json" "object without a 'kind'") ∧
    ¬ IsRepeated FileTree.system next (Sample.reading ["."]) Sample.bareEnvironment "1" output := by
  have hrun := Sample.execute_reading "1"
    (Sample.load_tree (by decide) Sample.sources_tree Sample.place_listed_manifest)
  refine ⟨_, _, hrun, Sample.load_treeWith_document, ?_⟩
  rintro ⟨document, _, _, hrepeated⟩
  obtain ⟨last, hlast⟩ := hrepeated "2"
  obtain ⟨output, houtput, _⟩ := bind_eq_ok.1 hlast
  obtain ⟨graph, hgraph, _⟩ := output_eq_ok_iff.1 houtput
  obtain ⟨objects, hobjects⟩ := exists_load_of_graph hgraph
  have hload := Sample.load_treeWith_document.symm.trans hobjects
  cases hload

end GatewayCompiler
