/-!
# Nodes

A document is a node: a scalar, a sequence, a mapping, or a reference to an anchored node before it.
Anchors are names at first and then numbers.  A number is the count of names met before; a name
that is used again gets the count of names as well, so it shares the number of the next new name.
-/

namespace GatewayCompiler.Yaml

/-- A tag with its handle resolved, as bytes. -/
abbrev TagBytes := List UInt8

structure Properties (ν : Type) where
  anchor : Option ν
  tag : Option TagBytes
  deriving Repr

inductive Node (ν : Type) where
  | scalar (properties : Properties ν) (text : String) (isPlain : Bool)
  | sequence (properties : Properties ν) (items : List (Node ν))
  | mapping (properties : Properties ν) (entries : List (Node ν × Node ν))
  | reference (target : ν)
  deriving Repr

namespace Node

/-- The empty value that stands where none is written. -/
def empty {ν : Type} : Node ν :=
  .scalar ⟨none, none⟩ "" true

mutual

/-- The size of a node: a collection counts for its start and its end. -/
def size {ν : Type} : Node ν → Nat
  | .scalar .. => 1
  | .reference _ => 1
  | .sequence _ items => itemsSize items + 2
  | .mapping _ entries => entriesSize entries + 2

def itemsSize {ν : Type} : List (Node ν) → Nat
  | [] => 0
  | item :: rest => item.size + itemsSize rest

def entriesSize {ν : Type} : List (Node ν × Node ν) → Nat
  | [] => 0
  | (key, value) :: rest => key.size + value.size + entriesSize rest

end

end Node

end GatewayCompiler.Yaml
