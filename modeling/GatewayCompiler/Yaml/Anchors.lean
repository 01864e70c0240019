import GatewayCompiler.Table
import GatewayCompiler.Yaml.Node

/-!
# Anchors and references

References are bound to the anchors before them in the text.  What a reference stands for is the last
node of its number in the document.
-/

namespace GatewayCompiler.Yaml

/-- The names of anchors met so far, with their numbers. -/
abbrev AnchorNumbers := Table String Nat

abbrev Binding := StateT AnchorNumbers Option

namespace Node

def bindProperties (properties : Properties String) : Binding (Properties Nat) := do
  match properties.anchor with
  | none => return ⟨none, properties.tag⟩
  | some name =>
    let numbers ← get
    let number := numbers.size
    set (numbers.insert name number)
    return ⟨some number, properties.tag⟩

mutual

/-- The node with numbers for names.  A reference to a name that was not met before has no number. -/
def bind : Node String → Binding (Node Nat)
  | .scalar properties text isPlain => do
    return .scalar (← bindProperties properties) text isPlain
  | .sequence properties items => do
    let properties ← bindProperties properties
    return .sequence properties (← bindItems items)
  | .mapping properties entries => do
    let properties ← bindProperties properties
    return .mapping properties (← bindEntries entries)
  | .reference name => do
    let some number := (← get).get? name | failure
    return .reference number

def bindItems : List (Node String) → Binding (List (Node Nat))
  | [] => return []
  | item :: rest => do
    let item ← item.bind
    return item :: (← bindItems rest)

def bindEntries : List (Node String × Node String) → Binding (List (Node Nat × Node Nat))
  | [] => return []
  | (key, value) :: rest => do
    let key ← key.bind
    let value ← value.bind
    return (key, value) :: (← bindEntries rest)

end

def numbered (properties : Properties Nat) (node : Node Nat) : List (Nat × Node Nat) :=
  match properties.anchor with
  | some number => [(number, node)]
  | none => []

mutual

/-- The anchored nodes in the order in which they start. -/
def anchored : Node Nat → List (Nat × Node Nat)
  | .scalar properties text isPlain => numbered properties (.scalar properties text isPlain)
  | .sequence properties items =>
    numbered properties (.sequence properties items) ++ anchoredItems items
  | .mapping properties entries =>
    numbered properties (.mapping properties entries) ++ anchoredEntries entries
  | .reference _ => []

def anchoredItems : List (Node Nat) → List (Nat × Node Nat)
  | [] => []
  | item :: rest => item.anchored ++ anchoredItems rest

def anchoredEntries : List (Node Nat × Node Nat) → List (Nat × Node Nat)
  | [] => []
  | (key, value) :: rest => key.anchored ++ value.anchored ++ anchoredEntries rest

end

end Node

end GatewayCompiler.Yaml
