import GatewayCompiler.Run
import Std.Time.Format

/-!
# The command

Reads the arguments, the environment and the manifest files, hands them to a run, and writes the
document that comes out.  Notices and faults go to the standard error.
-/

namespace GatewayCompiler.Command

/-- The settings that the environment has. -/
def readEnvironment : IO Environment := do
  let values ← Environment.names.filterMapM fun name => do
    return (← IO.getEnv name).map (name, ·)
  return fun name => values.lookup name

def fileError : IO.Error → FileError
  | .noFileOrDirectory .. => .notFound
  | e => .other (toString e)

/-- What an action gives, or `nothing` and why it refuses. -/
def orRefusal {α : Type} (nothing : α) (action : IO α) : IO (α × Option FileError) := do
  try
    return (← action, none)
  catch e => return (nothing, some (fileError e))

/-- What a path leads to at this time.  What is neither a file nor a directory is only read where
`streams` asks for it, since that may use it up. -/
def readNode (streams : Bool) (path : String) : IO (Except FileError FileNode) := do
  let place := (← IO.currentDir) / path
  try
    let bytes : IO (List UInt8) := do
      return (← IO.FS.readBinFile place).toList
    match (← place.metadata).type with
    | .dir =>
      let (names, refusal) ← orRefusal [] do
        return (← place.readDir).toList.map (·.fileName)
      return .ok (.directory names refusal)
    | .file =>
      let (bytes, refusal) ← orRefusal [] bytes
      return .ok (.file bytes refusal)
    | _ =>
      let (bytes, refusal) ← orRefusal [] (if streams then bytes else return [])
      return .ok (.stream bytes refusal)
  catch e => return .error (fileError e)

/-- The paths of the manifests in a directory that can be listed. -/
def manifestsUnder (path : String) : Except FileError FileNode → List String
  | .ok (.directory names none) =>
    (names.filter Manifest.isManifestName).map (Manifest.joinPath path)
  | _ => []

def readNodes (streams : Bool) (paths : List String) :
    IO (List (String × Except FileError FileNode)) :=
  paths.mapM fun path => return (path, ← readNode streams path)

/-- The view of all that a run with these manifests looks at. -/
def readView (manifests : List String) : IO FileView := do
  let nodes ← readNodes true manifests
  let listed := nodes.flatMap fun (path, node) => manifestsUnder path node
  let nodes := nodes ++ (← readNodes false listed)
  return fun path => (nodes.lookup path).getD (.error .notFound)

/-- The present time, which is the version of a document. -/
def currentVersion : IO String := do
  let now := Std.Time.DateTime.ofTimestamp (← Std.Time.Timestamp.now) .UTC
  return now.toLeanDateTimeWithZoneString

def writeFile (path text : String) : IO (Except FileError Unit) := do
  try
    IO.FS.writeFile ((← IO.currentDir) / path) text
    return .ok ()
  catch e => return .error (fileError e)

def host : Host IO where
  view := readView
  notice notice := IO.eprintln s!"Warning: {notice.message} ({notice.subject})"
  print := IO.print
  write := writeFile

/-- Runs with the arguments and gives the exit code. -/
def run (arguments : Arguments) : IO UInt32 := do
  match ← Run.perform host arguments (← readEnvironment) (← currentVersion) with
  | .ok () => return 0
  | .error fault =>
    IO.eprintln s!"Error: {fault.message}"
    return 1

end GatewayCompiler.Command

open GatewayCompiler in
def main (words : List String) : IO UInt32 := do
  match Arguments.parse words with
  | .ok arguments => Command.run arguments
  | .error request =>
    if request.isRequest then
      IO.println request.message
      return 0
    else
      IO.eprintln s!"Error: {request.message}"
      return 2
