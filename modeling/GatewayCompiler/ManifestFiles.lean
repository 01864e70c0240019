import GatewayCompiler.FileTree
import GatewayCompiler.Manifest
import GatewayCompiler.Text.Utf8

/-!
# Manifest files

A path is a file, or a directory whose manifests are read in the order of their names.  The manifests
of a directory are its regular files of certain extensions, also those that refuse to be read;
directories within a directory are not read.
-/

namespace GatewayCompiler.Manifest

/-- The extension of a name, if something stands before it. -/
def extension? (name : String) : Option String :=
  let reversed := name.toList.reverse
  match reversed.dropWhile (· ≠ '.') with
  | '.' :: _ :: _ => some (String.ofList (reversed.takeWhile (· ≠ '.')).reverse)
  | _ => none

def isManifestName (name : String) : Bool :=
  (extension? name).any ["yaml", "yml", "json"].contains

/-- The path of a name in a directory. -/
def joinPath (directory name : String) : String :=
  if directory.endsWith "/" then directory ++ name else s!"{directory}/{name}"

/-- Whether a path leads to a regular file, be it one that can be read or not. -/
def isFile (view : FileView) (path : String) : Bool :=
  match view path with
  | .ok (.file ..) => true
  | _ => false

/-- The text of a file. -/
def readText (view : FileView) (path : String) : Except FileError String := do
  let bytes ← (← view path).read
  match Text.ofUtf8? bytes with
  | some text => return text
  | none => throw .notUtf8

def loadFile (view : FileView) (path : String) : Except Fault (List ApiObject) :=
  match readText view path with
  | .ok text => parse path text
  | .error reason => .error (.file s!"Failed to read manifest {path}" reason)

/-- The paths of the manifests in a directory, in the order of their names. -/
def filesIn (view : FileView) (directory : String) (names : List String) : List String :=
  let ordered := (names.filter isManifestName).mergeSort fun a b => decide (a ≤ b)
  (ordered.map (joinPath directory)).filter (isFile view)

def loadPath (view : FileView) (path : String) : Except Fault (List ApiObject) :=
  match view path with
  | .ok (.directory names none) =>
    ((filesIn view path names).mapM (loadFile view)).map List.flatten
  | .ok (.directory _ (some reason)) =>
    .error (.file s!"Failed to list directory {path}" reason)
  | _ => loadFile view path

/-- The objects of all paths, in order. -/
def load (view : FileView) (paths : List String) : Except Fault (List ApiObject) :=
  (paths.mapM (loadPath view)).map List.flatten

end GatewayCompiler.Manifest
