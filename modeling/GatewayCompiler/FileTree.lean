import GatewayCompiler.Fault

/-!
# Files

A view of files says what a path leads to.  A file tree is such a view: files and directories under
one working directory, which relative paths start from.
-/

namespace GatewayCompiler

/-- What a path leads to.  It is there even where it refuses to be read or listed. -/
inductive FileNode where
  /-- A regular file, and why its bytes cannot be read if they cannot. -/
  | file (bytes : List UInt8) (refusal : Option FileError)
  /-- The names in the directory, in whatever order, and why they cannot be listed. -/
  | directory (names : List String) (refusal : Option FileError)
  /-- Neither of them, such as a pipe, and what can be read from it. -/
  | stream (bytes : List UInt8) (refusal : Option FileError)
  deriving DecidableEq, Repr

/-- The bytes that are read, or why none are. -/
def FileNode.read : FileNode → Except FileError (List UInt8)
  | .file bytes none | .stream bytes none => .ok bytes
  | .file _ (some reason) | .stream _ (some reason) => .error reason
  | .directory .. => .error .isADirectory

/-- What each path leads to, or why it leads nowhere. -/
abbrev FileView := String → Except FileError FileNode

/-- The files and directories by their way from the working directory; a file has its bytes.  All of
them can be read. -/
structure FileTree where
  entries : List (List String × Option (List UInt8))
  deriving DecidableEq, Repr

namespace FileTree

def empty : FileTree := ⟨[]⟩

/-- The steps of a path. -/
def steps (path : String) : List String :=
  (path.toList.splitOn '/').map String.ofList

def isStay (step : String) : Bool :=
  step = "" || step = "."

/-- Adds what is not there yet. -/
def addEntry (tree : FileTree) (way : List String) (content : Option (List UInt8)) : FileTree :=
  if way = [] || (tree.entries.lookup way).isSome then tree
  else ⟨tree.entries ++ [(way, content)]⟩

/-- The ways of the directories above. -/
def parents (way : List String) : List (List String) :=
  (List.range way.length).map (way.take ·)

/-- The tree with a file or directory and the directories above it.  A path that ends in a slash is a
directory. -/
def add (tree : FileTree) (path : String) (bytes : List UInt8) : FileTree :=
  let way := (steps path).filter (!isStay ·)
  let tree := (parents way).foldl (fun tree parent => tree.addEntry parent none) tree
  tree.addEntry way (if path.endsWith "/" then none else some bytes)

/-- The names in a directory. -/
def namesIn (tree : FileTree) (directory : List String) : List String :=
  tree.entries.filterMap fun (way, _) =>
    if way ≠ [] ∧ way.dropLast = directory then way.getLast? else none

def node? (tree : FileTree) (way : List String) : Option FileNode :=
  if way = [] then some (.directory (tree.namesIn []) none)
  else
    match tree.entries.lookup way with
    | some (some bytes) => some (.file bytes none)
    | some none => some (.directory (tree.namesIn way) none)
    | none => none

/-- Refuses a way that does not lead to a directory. -/
def requireDirectory (tree : FileTree) (way : List String) : Except FileError Unit :=
  match tree.node? way with
  | some (.directory ..) => .ok ()
  | some _ => .error .notADirectory
  | none => .error .notFound

/-- Where steps lead from a place.  Every step starts in a directory. -/
def walk (tree : FileTree) (way : List String) : List String → Except FileError (List String)
  | [] => .ok way
  | step :: rest => do
    tree.requireDirectory way
    if isStay step then walk tree way rest
    else if step = ".." then walk tree way.dropLast rest
    else walk tree (way ++ [step]) rest

/-- The tree as seen through paths.  There is nothing outside of the working directory. -/
def view (tree : FileTree) : FileView := fun path => do
  if path.isEmpty || path.startsWith "/" then
    throw .notFound
  let way ← tree.walk [] (steps path)
  let some node := tree.node? way | throw .notFound
  return node

/-- Refuses a path that no file can be written to. -/
def checkWritable (tree : FileTree) (path : String) : Except FileError Unit := do
  if path.isEmpty || path.startsWith "/" then
    throw .notFound
  let list := steps path
  let way ← tree.walk [] list.dropLast
  tree.requireDirectory way
  let last := list.getLastD ""
  if isStay last || last = ".." then
    throw .isADirectory
  if let some (.directory ..) := tree.node? (way ++ [last]) then
    throw .isADirectory

end FileTree

end GatewayCompiler
