import GatewayCompiler.Proofs.Document
import GatewayCompiler.Proofs.Files.Rerun
import GatewayCompiler.Proofs.Gateway.Closure
import GatewayCompiler.Proofs.Snapshot

/-!
# Runs that fail

A run writes its document, or it leaves everything as it was.  It may fail in any of its stages,
from the settings to the check of the graph; then no file changes and nothing is printed.  A run
that succeeds changes one file at most, from which the document of a checked graph is read back.
-/

namespace GatewayCompiler

/-- Files that are read through the path that they were written to. -/
structure FileStore extends FileSystem where
  leadsTo_write : ∀ state path bytes next, write state path bytes = .ok next →
    LeadsTo next path path

/-- File trees are a store. -/
def FileTree.store : FileStore where
  toFileSystem := FileTree.system
  leadsTo_write := by
    intro tree path bytes next hwrite
    obtain ⟨parent, name, h, rfl⟩ := FileTree.write_eq_ok_iff.1 hwrite
    exact h.leadsTo_put_iff.2 h.place_eq

/-- The world around a run: files, and what has been noticed and printed so far. -/
structure Scene (files : FileSystem) where
  state : files.State
  notices : List Notice
  printed : List String

namespace Scene

variable {files : FileSystem}

/-- What a run may ask for in a scene.  A file that cannot be written leaves the files as they
are. -/
def host (files : FileSystem) : Host (StateM (Scene files)) where
  view _ scene := (files.view scene.state, scene)
  notice notice scene := ((), { scene with notices := scene.notices ++ [notice] })
  print text scene := ((), { scene with printed := scene.printed ++ [text] })
  write path text scene :=
    match files.write scene.state path (Text.utf8 text) with
    | .ok next => (.ok (), { scene with state := next })
    | .error reason => (.error reason, scene)

/-- The scene in which these notices have been given too. -/
def noted (scene : Scene files) (notices : List Notice) : Scene files :=
  { scene with notices := scene.notices ++ notices }

/-- What comes of a document: its text is printed and no file changes, or nothing is printed and one
file changes, which holds its text.  It is read back from what is printed or written. -/
def Receives (before after : Scene files) (destination : Destination) (document : Document) :
    Prop :=
  match destination with
  | .standardOutput =>
    after.state = before.state ∧ after.printed = before.printed ++ [document.text ++ "\n"] ∧
      document.IsReadFrom (document.text ++ "\n")
  | .file path =>
    after.printed = before.printed ∧
      (∃ refusal, files.view after.state path = .ok (.file (Text.utf8 document.text) refusal)) ∧
      document.IsReadFrom document.text ∧
      (files.view before.state).IsWritten (files.LeadsTo after.state · path)
        (Text.utf8 document.text) (files.view after.state)

end Scene

namespace Run

section Stages

variable {arguments : Arguments} {env : Environment} {view : FileView} {graph : Graph}

/-- All stages of a run succeed, and the last one gives this graph. -/
structure ComesTo (arguments : Arguments) (env : Environment) (view : FileView) (graph : Graph) :
    Prop where
  logging : ∃ logging, arguments.logSettings env = .ok logging
  translated : ∃ settings objects snapshot, arguments.settings env = .ok settings ∧
    Manifest.load view arguments.manifests = .ok objects ∧
    (Snapshot.ofObjects objects).outcome = .ok snapshot ∧
    ((Translator.ofSettings snapshot settings).translate arguments.key).outcome = .ok graph

/-- A stage of a run fails: the settings for its logs or its translation, the manifests, or the
translation, with the check of the graph at its end. -/
inductive Fails (arguments : Arguments) (env : Environment) (view : FileView) : Prop where
  | logging {fault : Fault} (h : arguments.logSettings env = .error fault)
  | settings {fault : Fault} (h : arguments.settings env = .error fault)
  | loading {fault : Fault} (h : Manifest.load view arguments.manifests = .error fault)
  | translating {settings : Settings} {objects : List ApiObject} {snapshot : Snapshot}
      {fault : Fault} (hsettings : arguments.settings env = .ok settings)
      (hobjects : Manifest.load view arguments.manifests = .ok objects)
      (hsnapshot : (Snapshot.ofObjects objects).outcome = .ok snapshot)
      (h : ((Translator.ofSettings snapshot settings).translate arguments.key).outcome =
        .error fault)

theorem outcome_graph_eq_ok_iff :
    (Run.graph arguments env view).outcome = .ok graph ↔ ComesTo arguments env view graph := by
  simp only [Run.graph, snapshot, Report.outcome_bind_eq_ok, Report.outcome_mapFault_eq_ok,
    Report.outcome_liftM]
  constructor
  · rintro ⟨logging, hlogging, settings, hsettings, snapshot, ⟨objects, hobjects, hsnapshot⟩,
      hgraph⟩
    exact ⟨⟨logging, hlogging⟩, settings, objects, snapshot, hsettings, hobjects, hsnapshot, hgraph⟩
  · rintro ⟨⟨logging, hlogging⟩, settings, objects, snapshot, hsettings, hobjects, hsnapshot,
      hgraph⟩
    exact ⟨logging, hlogging, settings, hsettings, snapshot, ⟨objects, hobjects, hsnapshot⟩, hgraph⟩

/-- Of a run whose graph has been translated, no stage has failed. -/
theorem ComesTo.not_fails (h : ComesTo arguments env view graph) : ¬ Fails arguments env view := by
  obtain ⟨⟨logging, hlogging⟩, settings, objects, snapshot, hsettings, hobjects, hsnapshot,
    hgraph⟩ := h
  rintro (hfault | hfault | hfault | ⟨hsettings', hobjects', hsnapshot', hfault⟩)
  · cases hlogging.symm.trans hfault
  · cases hsettings.symm.trans hfault
  · cases hobjects.symm.trans hfault
  · cases hsettings.symm.trans hsettings'
    cases hobjects.symm.trans hobjects'
    cases hsnapshot.symm.trans hsnapshot'
    cases hgraph.symm.trans hfault

theorem exists_comesTo_or_fails (arguments : Arguments) (env : Environment) (view : FileView) :
    (∃ graph, ComesTo arguments env view graph) ∨ Fails arguments env view := by
  cases hlogging : arguments.logSettings env with
  | error fault => exact .inr (.logging hlogging)
  | ok logging =>
  cases hsettings : arguments.settings env with
  | error fault => exact .inr (.settings hsettings)
  | ok settings =>
  cases hobjects : Manifest.load view arguments.manifests with
  | error fault => exact .inr (.loading hobjects)
  | ok objects =>
  have hsnapshot : (Snapshot.ofObjects objects).outcome = .ok (objects.foldl Snapshot.insert ∅) :=
    Snapshot.outcome_putAll objects
  cases hgraph : ((Translator.ofSettings (objects.foldl Snapshot.insert ∅) settings).translate
      arguments.key).outcome with
  | error fault => exact .inr (.translating hsettings hobjects hsnapshot hgraph)
  | ok graph =>
      exact .inl ⟨graph, ⟨logging, hlogging⟩, settings, objects, _, hsettings, hobjects, hsnapshot,
        hgraph⟩

/-- The graph that a run comes to has passed its check. -/
theorem ComesTo.checkConsistency (h : ComesTo arguments env view graph) :
    graph.checkConsistency = .ok () := by
  obtain ⟨settings, objects, snapshot, -, -, -, hgraph⟩ := h.translated
  obtain ⟨-, gateway, -, -, hresources⟩ := Translator.outcome_translate_eq_ok_iff.1 hgraph
  have hclosed := Translator.isClosed_of_resources hresources
  exact Graph.checkConsistency_eq_ok_iff.2 hclosed.toIsConsistent

end Stages

section Effects

variable {files : FileSystem} {scene : Scene files} {arguments : Arguments} {env : Environment}
  {version : String}

theorem run_forM_notice (scene : Scene files) (notices : List Notice) :
    (notices.forM (Scene.host files).notice).run scene = ((), scene.noted notices) := by
  induction notices generalizing scene with
  | nil =>
      rw [Scene.noted, List.append_nil]
      rfl
  | cons notice notices ih =>
      show (notices.forM (Scene.host files).notice).run (scene.noted [notice]) = _
      rw [ih]
      simp [Scene.noted]

/-- A run gives its notices, and then hands out its output if it has one. -/
theorem run_perform (scene : Scene files) {report : Report RunFault Output}
    (h : Run.output arguments env (files.view scene.state) version = report) :
    (perform (Scene.host files) arguments env version).run scene =
      match report.outcome with
      | .ok output => (emit (Scene.host files) output).run (scene.noted report.notices)
      | .error fault => (.error fault, scene.noted report.notices) := by
  have hview : ((Scene.host files).view arguments.manifests).run scene =
      pure (files.view scene.state, scene) := rfl
  rw [perform, StateT.run_bind, hview, pure_bind, h, StateT.run_bind, run_forM_notice]
  cases report.outcome <;> rfl

theorem run_emit_of_standardOutput (scene : Scene files) {output : Output}
    (h : output.destination = .standardOutput) :
    (emit (Scene.host files) output).run scene =
      (.ok (), { scene with printed := scene.printed ++ [output.text] }) := by
  rw [emit, h]
  rfl

theorem run_emit_of_written (scene : Scene files) {output : Output} {path : String}
    {next : files.State} (h : output.destination = .file path)
    (hwrite : files.write scene.state path (Text.utf8 output.text) = .ok next) :
    (emit (Scene.host files) output).run scene = (.ok (), { scene with state := next }) := by
  have hwritten : ((Scene.host files).write path output.text).run scene =
      (.ok (), { scene with state := next }) := by
    simp only [Scene.host, StateT.run, hwrite]
  rw [emit, h, StateT.run_bind, hwritten]
  rfl

theorem run_emit_of_unwritten (scene : Scene files) {output : Output} {path : String}
    {reason : FileError} (h : output.destination = .file path)
    (hwrite : files.write scene.state path (Text.utf8 output.text) = .error reason) :
    (emit (Scene.host files) output).run scene =
      (.error (.writing path reason.message), scene) := by
  have hrefused : ((Scene.host files).write path output.text).run scene =
      (.error reason, scene) := by
    simp only [Scene.host, StateT.run, hwrite]
  rw [emit, h, StateT.run_bind, hrefused]
  rfl

/-- A run of which a stage fails gives notices and no more. -/
theorem run_perform_of_fails (h : Fails arguments env (files.view scene.state)) :
    ∃ fault notices, (perform (Scene.host files) arguments env version).run scene =
      (.error fault, scene.noted notices) := by
  have hrun := run_perform scene (rfl : Run.output arguments env (files.view scene.state) version =
    _)
  cases houtcome : (Run.output arguments env (files.view scene.state) version).outcome with
  | ok output =>
      obtain ⟨graph, hgraph, -⟩ := output_eq_ok_iff.1 houtcome
      exact absurd h (outcome_graph_eq_ok_iff.1 hgraph).not_fails
  | error fault =>
      rw [houtcome] at hrun
      exact ⟨fault, _, hrun⟩

/-- A run that comes to a graph hands out its document. -/
theorem run_perform_of_comesTo {graph : Graph}
    (h : ComesTo arguments env (files.view scene.state) graph) :
    ∃ notices, (perform (Scene.host files) arguments env version).run scene =
      (emit (Scene.host files) (Output.ofDocument arguments.destination
        (Document.ofGraph version graph))).run (scene.noted notices) := by
  have hrun := run_perform scene (rfl : Run.output arguments env (files.view scene.state) version =
    _)
  have houtcome : (Run.output arguments env (files.view scene.state) version).outcome =
      .ok (Output.ofDocument arguments.destination (Document.ofGraph version graph)) :=
    output_eq_ok_iff.2 ⟨graph, outcome_graph_eq_ok_iff.2 h, rfl⟩
  rw [houtcome] at hrun
  exact ⟨_, hrun⟩

end Effects

/-- What a run does to a scene: all that it is for, or nothing. -/
structure AllOrNothing {files : FileSystem} (arguments : Arguments) (env : Environment)
    (version : String) (before : Scene files) (result : Except RunFault Unit × Scene files) :
    Prop where
  /-- When a stage fails, so does the run, and no file changes and nothing is printed. -/
  failed : Fails arguments env (files.view before.state) →
    (∃ fault, result.1 = .error fault) ∧ result.2.state = before.state ∧
      result.2.printed = before.printed
  /-- When the run succeeds, its destination receives the document of a checked graph. -/
  succeeded : result.1 = .ok () → ∃ graph, ComesTo arguments env (files.view before.state) graph ∧
    graph.checkConsistency = .ok () ∧
    before.Receives result.2 arguments.destination (Document.ofGraph version graph)
  /-- A run whose stages succeed can fail only where its file is written. -/
  unwritten : ∀ fault, result.1 = .error fault → ¬ Fails arguments env (files.view before.state) →
    ∃ path reason, fault = .writing path reason ∧ arguments.destination = .file path

section Whole

variable {arguments : Arguments} {env : Environment} {version : String}

theorem allOrNothing_of_fails {files : FileSystem} {scene : Scene files}
    (h : Fails arguments env (files.view scene.state)) :
    AllOrNothing arguments env version scene
      ((perform (Scene.host files) arguments env version).run scene) := by
  obtain ⟨fault, notices, hrun⟩ := run_perform_of_fails h
  rw [hrun]
  refine ⟨fun _ => ⟨⟨fault, rfl⟩, rfl, rfl⟩, (fun hok => nomatch hok), ?_⟩
  intro _ _ hstages
  exact absurd h hstages

/-- What is handed out of a graph is received, unless its file cannot be written. -/
theorem allOrNothing_of_comesTo {files : FileStore} {scene : Scene files.toFileSystem}
    {graph : Graph} (h : ComesTo arguments env (files.view scene.state) graph) :
    AllOrNothing arguments env version scene
      ((perform (Scene.host files.toFileSystem) arguments env version).run scene) := by
  have hdone (after : Scene files.toFileSystem) (hreceives : scene.Receives after
      arguments.destination (Document.ofGraph version graph)) :
      AllOrNothing arguments env version scene (.ok (), after) :=
    ⟨fun hfails => absurd hfails h.not_fails,
      fun _ => ⟨graph, h, h.checkConsistency, hreceives⟩, fun _ hfault => nomatch hfault⟩
  obtain ⟨notices, hrun⟩ := run_perform_of_comesTo h
  rw [hrun]
  cases hdestination : arguments.destination with
  | standardOutput =>
      rw [run_emit_of_standardOutput _ (destination_ofDocument _ _)]
      apply hdone
      rw [hdestination]
      exact ⟨rfl, rfl, Document.isReadFrom_text_newline _⟩
  | file path =>
      cases hwrite : files.write scene.state path
          (Text.utf8 (Document.ofGraph version graph).text) with
      | ok next =>
          rw [run_emit_of_written (scene.noted notices) (destination_ofDocument _ _) hwrite]
          apply hdone
          rw [hdestination]
          have hwritten := files.isWritten_write scene.state path _ next hwrite
          have hleads := files.leadsTo_write scene.state path _ next hwrite
          exact ⟨rfl, hwritten.written path hleads, Document.isReadFrom_text _, hwritten⟩
      | error reason =>
          rw [run_emit_of_unwritten (scene.noted notices) (destination_ofDocument _ _) hwrite]
          refine ⟨fun hfails => absurd hfails h.not_fails, (fun hok => nomatch hok), ?_⟩
          rintro _ ⟨⟩ -
          exact ⟨path, reason.message, rfl, hdestination⟩

end Whole

/-- In every scene, with every command line and environment, a run does all or nothing. -/
theorem allOrNothing_perform (files : FileStore) (arguments : Arguments) (env : Environment)
    (version : String) (scene : Scene files.toFileSystem) :
    AllOrNothing arguments env version scene
      ((perform (Scene.host files.toFileSystem) arguments env version).run scene) := by
  obtain ⟨graph, hgraph⟩ | hfails := exists_comesTo_or_fails arguments env (files.view scene.state)
  · exact allOrNothing_of_comesTo hgraph
  · exact allOrNothing_of_fails hfails

end Run

end GatewayCompiler
