import GatewayCompiler.CommandLine
import GatewayCompiler.Document
import GatewayCompiler.ManifestFiles
import GatewayCompiler.Translation.Gateway

/-!
# A run of the program

A run takes the settings, loads the manifests, translates one Gateway, and hands out the document.
Nothing is written unless all of that succeeds.  What a run does to the world around it, it asks of
a host.
-/

namespace GatewayCompiler

/-- Why a run failed. -/
inductive RunFault where
  /-- Before the translation. -/
  | preparing (fault : Fault)
  | translating (gateway : ObjectKey) (fault : Fault)
  | writing (path reason : String)
  deriving DecidableEq, Repr

namespace RunFault

def message : RunFault → String
  | .preparing fault => fault.fullMessage
  | .translating gateway fault =>
    s!"Failed to translate Gateway {gateway.display}: {fault.fullMessage}"
  | .writing path reason => s!"Failed to write output file {path}: {reason}"

/-- The category of the fault that lies behind, if there is one. -/
def category? : RunFault → Option String
  | .preparing fault | .translating _ fault => some fault.category
  | .writing .. => none

end RunFault

/-- Where a document goes. -/
inductive Destination where
  | standardOutput
  | file (path : String)
  deriving DecidableEq, Repr

structure Output where
  destination : Destination
  text : String
  deriving DecidableEq, Repr

def Arguments.destination (arguments : Arguments) : Destination :=
  if arguments.output = Arguments.standardOutput then .standardOutput else .file arguments.output

/-- The text of a document for its destination; on the standard output a line break follows. -/
def Output.ofDocument (destination : Destination) (document : Document) : Output :=
  match destination with
  | .standardOutput => ⟨.standardOutput, document.text ++ "\n"⟩
  | .file path => ⟨.file path, document.text⟩

/-- What a run asks of the world around it. -/
structure Host (m : Type → Type) where
  /-- Looks at the files that paths lead to, with those of the manifests among them. -/
  view : List String → m FileView
  notice : Notice → m Unit
  print : String → m Unit
  /-- Writes a file anew. -/
  write : String → String → m (Except FileError Unit)

namespace Run

/-- The objects of the manifests. -/
def snapshot (arguments : Arguments) (view : FileView) : Report Fault Snapshot := do
  let objects ← Manifest.load view arguments.manifests
  Snapshot.ofObjects objects

/-- The graph that the arguments ask for.  The settings of the logs are those of the command around a
run, which has them before the run starts; they are taken first here, so that a fault in them ends
the run as it ends the command. -/
def graph (arguments : Arguments) (env : Environment) (view : FileView) : Report RunFault Graph := do
  let _ ← (Report.ofExcept (arguments.logSettings env)).mapFault .preparing
  let settings ← (Report.ofExcept (arguments.settings env)).mapFault .preparing
  let snapshot ← (snapshot arguments view).mapFault .preparing
  ((Translator.ofSettings snapshot settings).translate arguments.key).mapFault
    (.translating arguments.key)

/-- The output that the arguments ask for, under a version. -/
def output (arguments : Arguments) (env : Environment) (view : FileView) (version : String) :
    Report RunFault Output := do
  let graph ← graph arguments env view
  return Output.ofDocument arguments.destination (Document.ofGraph version graph)

section Host

variable {m : Type → Type} [Monad m]

/-- Hands an output over to its destination. -/
def emit (host : Host m) (output : Output) : m (Except RunFault Unit) := do
  match output.destination with
  | .standardOutput =>
    host.print output.text
    return .ok ()
  | .file path =>
    let written ← host.write path output.text
    return written.mapError fun reason => .writing path reason.message

/-- A whole run.  Its notices are given even when it fails. -/
def perform (host : Host m) (arguments : Arguments) (env : Environment) (version : String) :
    m (Except RunFault Unit) := do
  let view ← host.view arguments.manifests
  let report := output arguments env view version
  report.notices.forM host.notice
  match report.outcome with
  | .ok output => emit host output
  | .error fault => return .error fault

end Host

/-- Refuses an output that the tree has no place for. -/
def deliver (tree : FileTree) (output : Output) : Except RunFault Unit :=
  match output.destination with
  | .standardOutput => .ok ()
  | .file path => (tree.checkWritable path).mapError fun reason => .writing path reason.message

end Run

end GatewayCompiler
