import GatewayCompiler.Yaml.Anchors
import GatewayCompiler.Yaml.Grammar
import GatewayCompiler.Yaml.Lexer
import GatewayCompiler.Yaml.Scalar

/-!
# The JSON value of a document

A node becomes a JSON value.  Keys are different from each other and have a text; a tag of its own
makes an object whose only field is the tag.  Collections nest at most 128 deep, also through
references, and references are followed at most a hundred times as often as the document is long.

A null document has no value, while a number without a JSON form is a value, whose JSON is null.
-/

namespace GatewayCompiler.Yaml

/-- How deep collections may nest. -/
def depthLimit : Nat := 128

/-- What a document gives to its nodes. -/
structure References where
  /-- The anchored nodes, the last first. -/
  targets : List (Nat × Node Nat)
  /-- How often references may be followed. -/
  limit : Nat

/-- Steps that count the references followed. -/
abbrev Following := StateT Nat Option

namespace References

def ofNode (node : Node Nat) : References :=
  ⟨node.anchored.reverse, 100 * node.size⟩

/-- What a node stands for. -/
def follow (references : References) : Node Nat → Following (Node Nat)
  | .reference number => do
    let followed := (← get) + 1
    if references.limit < followed then failure
    set followed
    let some target := references.targets.lookup number | failure
    return target
  | node => return node

end References

/-- The meaning of a tag, if there is one. -/
def tagMeaning (tag : Option TagBytes) : Option TagMeaning :=
  tag.map TagMeaning.ofBytes

/-- The name of a tag behind its exclamation mark, which is not doubled. -/
def tagKey (name : String) : String :=
  match name.toList with
  | '!' :: _ :: _ => name
  | _ => "!" ++ name

/-- A value under the tag that names it.  There is no such tag without a name. -/
def named (name : String) (value : Json) : Option Json :=
  if name.isEmpty then none else some (.object [(tagKey name, value)])

/-- The scalar of a text without a tag. -/
def untaggedScalar? (text : String) (isPlain : Bool) : Option Scalar :=
  if isPlain then Scalar.ofPlain? text else some (.string text)

/-- The scalar of a text, unless it has a tag of its own. -/
def scalar? (tag : Option TagBytes) (text : String) (isPlain : Bool) : Option Scalar :=
  match tagMeaning tag with
  | none => untaggedScalar? text isPlain
  | some (.core kind) => Scalar.ofCoreTag? kind text
  | some (.named _) => none

def scalarJson? (tag : Option TagBytes) (text : String) (isPlain : Bool) : Option Json :=
  match tagMeaning tag with
  | some (.named name) => do
    let scalar ← untaggedScalar? text isPlain
    named name scalar.toJson
  | _ => (scalar? tag text isPlain).map Scalar.toJson

/-- A collection, under its tag if that is one of its own. -/
def collectionJson? (tag : Option TagBytes) (value : Json) : Option Json :=
  match tagMeaning tag with
  | some (.named name) => named name value
  | _ => some value

/-- The scalar of a node that stands for one. -/
def keyOf? : Node Nat → Option Scalar
  | .scalar properties text isPlain => scalar? properties.tag text isPlain
  | _ => none

/-- The fields of keys and values, unless two keys are the same or one has no text. -/
def fields? : List Scalar → List (Scalar × Json) → Option (List (String × Json))
  | _, [] => some []
  | seen, (key, value) :: rest => do
    if seen.any (key.sameKey ·) then none
    let name ← key.fieldName?
    return (name, value) :: (← fields? (key :: seen) rest)

/-- The JSON value of a node in which collections may nest this deep. -/
def value (references : References) : Nat → Node Nat → Following Json
  | 0, node => do
    match ← references.follow node with
    | .scalar properties text isPlain => liftM (scalarJson? properties.tag text isPlain)
    | _ => failure
  | depth + 1, node => do
    match ← references.follow node with
    | .scalar properties text isPlain => liftM (scalarJson? properties.tag text isPlain)
    | .sequence properties items => do
      let items ← items.mapM (value references depth)
      liftM (collectionJson? properties.tag (.array items))
    | .mapping properties entries => do
      let entries ← entries.mapM fun (key, item) => do
        let key ← liftM (keyOf? (← references.follow key))
        return (key, ← value references depth item)
      let fields ← liftM (fields? [] entries)
      liftM (collectionJson? properties.tag (Json.ofFields fields))
    | .reference _ => failure

/-- Whether a node is null, under whatever tag. -/
def isNull : Node Nat → Bool
  | .scalar properties text isPlain =>
    match tagMeaning properties.tag with
    | some (.core _) => scalar? properties.tag text isPlain == some .null
    | _ => untaggedScalar? text isPlain == some .null
  | _ => false

/-- What a document comes to. -/
inductive Document where
  /-- The document has a fault. -/
  | faulty
  | null
  | value (json : Json)
  deriving Repr

namespace Document

def value? : Document → Option Json
  | .value json => some json
  | _ => none

/-- The document of a node, unless it has a fault.  One that is null stays null under a tag of its
own. -/
def ofNode? (node : Node String) : Option Document := do
  let (node, _) ← node.bind.run ∅
  let (json, _) ← (Yaml.value (References.ofNode node) depthLimit node).run 0
  return if isNull node then .null else .value json

end Document

/-- The documents of a text, in order.  One with a fault is the last; an empty text has none. -/
def documents (text : String) : List Document :=
  (Grammar.documents (tokens text)).map fun node => (node.bind Document.ofNode?).getD .faulty

end GatewayCompiler.Yaml
