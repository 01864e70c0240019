import GatewayCompiler.Text.Utf8
import GatewayCompiler.Yaml.Node
import GatewayCompiler.Yaml.Token

/-!
# From tokens to documents

A stream is a list of documents.  The first may start without a marker.  Documents are read one at a
time, so a fault in one does not concern the ones before it.
-/

namespace GatewayCompiler.Yaml

/-- A reader of tokens.  It fails at a token that does not fit and where the tokens stop. -/
abbrev TokenReader := StateT (List Token) Option

/-- What the handles of tags stand for. -/
abbrev Handles := List (String × List UInt8)

namespace Grammar

def peek : TokenReader Token := do
  let token :: _ ← get | failure
  return token

def skip : TokenReader Unit :=
  modify (·.drop 1)

/-- Takes the token if it comes next. -/
def accept (token : Token) : TokenReader Bool := do
  if (← peek) == token then
    skip
    return true
  else return false

/-- The bytes of a tag. -/
def resolveTag (handles : Handles) (handle : String) (suffix : List UInt8) :
    TokenReader (List UInt8) := do
  if handle.isEmpty then
    return suffix
  let some start := handles.lookup handle | failure
  return start ++ suffix

def readTag (handles : Handles) : TokenReader (Option TagBytes) := do
  match ← peek with
  | .tag handle suffix =>
    skip
    return some (← resolveTag handles handle suffix)
  | _ => return none

def readAnchor : TokenReader (Option String) := do
  match ← peek with
  | .anchor name =>
    skip
    return some name
  | _ => return none

/-- An anchor and a tag, in either order. -/
def readProperties (handles : Handles) : TokenReader (Properties String) := do
  match ← readAnchor with
  | some name => return ⟨some name, ← readTag handles⟩
  | none =>
    let tag ← readTag handles
    if tag.isSome then return ⟨← readAnchor, tag⟩ else return ⟨none, none⟩

/-- The tag `!` asks for the value that a scalar has without a tag. -/
def scalarNode (properties : Properties String) (text : String) (isPlain : Bool) : Node String :=
  let tag := properties.tag.filter (· ≠ Text.utf8 "!")
  .scalar { properties with tag } text isPlain

/-- What may be read in place of a node where the tokens end it. -/
def endsItem (token : Token) : Bool :=
  token == .blockEntry || token == .blockEnd

def endsIndentlessItem (token : Token) : Bool :=
  token == .blockEntry || token == .key || token == .value || token == .blockEnd

def endsEntry (token : Token) : Bool :=
  token == .key || token == .value || token == .blockEnd

mutual

/-- A node.  In a flow collection there are no block collections; a sequence that is a value in a
block mapping may be indented no more than its key. -/
def readNode (handles : Handles) (inBlock indentless : Bool) : Nat → TokenReader (Node String)
  | 0 => failure
  | fuel + 1 => do
    if let .reference name ← peek then
      skip
      return .reference name
    let properties ← readProperties handles
    let token ← peek
    if indentless && token == .blockEntry then
      return .sequence properties (← readIndentless handles fuel)
    match token with
    | .scalar text isPlain =>
      skip
      return scalarNode properties text isPlain
    | .flowSequenceStart =>
      skip
      return .sequence properties (← readFlowItems handles true fuel)
    | .flowMappingStart =>
      skip
      return .mapping properties (← readFlowEntries handles true fuel)
    | .blockSequenceStart =>
      if !inBlock then failure
      skip
      return .sequence properties (← readBlockItems handles fuel)
    | .blockMappingStart =>
      if !inBlock then failure
      skip
      return .mapping properties (← readBlockEntries handles fuel)
    | _ =>
      if properties.anchor.isNone && properties.tag.isNone then failure
      return .scalar properties "" true

/-- A node, or the empty one before a token that ends its place. -/
def readNodeUnless (handles : Handles) (inBlock indentless : Bool) (ends : Token → Bool) :
    Nat → TokenReader (Node String)
  | 0 => failure
  | fuel + 1 => do
    if ends (← peek) then return Node.empty else readNode handles inBlock indentless fuel

/-- The items of a block sequence, to its end. -/
def readBlockItems (handles : Handles) : Nat → TokenReader (List (Node String))
  | 0 => failure
  | fuel + 1 => do
    if ← accept .blockEntry then
      let item ← readNodeUnless handles true false endsItem fuel
      return item :: (← readBlockItems handles fuel)
    if ← accept .blockEnd then return [] else failure

/-- The items of a sequence that is no more indented than its key. -/
def readIndentless (handles : Handles) : Nat → TokenReader (List (Node String))
  | 0 => failure
  | fuel + 1 => do
    if ← accept .blockEntry then
      let item ← readNodeUnless handles true false endsIndentlessItem fuel
      return item :: (← readIndentless handles fuel)
    else return []

/-- The entries of a block mapping, to its end. -/
def readBlockEntries (handles : Handles) : Nat → TokenReader (List (Node String × Node String))
  | 0 => failure
  | fuel + 1 => do
    if ← accept .key then
      let key ← readNodeUnless handles true true endsEntry fuel
      let value ← readBlockValue handles fuel
      return (key, value) :: (← readBlockEntries handles fuel)
    if ← accept .blockEnd then return [] else failure

/-- The value of an entry, empty if there is none. -/
def readBlockValue (handles : Handles) : Nat → TokenReader (Node String)
  | 0 => failure
  | fuel + 1 => do
    if ← accept .value then readNodeUnless handles true true endsEntry fuel else return Node.empty

/-- The items of a flow sequence, to its end.  A key starts a mapping of one entry. -/
def readFlowItems (handles : Handles) (isFirst : Bool) : Nat → TokenReader (List (Node String))
  | 0 => failure
  | fuel + 1 => do
    if ← accept .flowSequenceEnd then
      return []
    if !isFirst then
      if !(← accept .flowEntry) then failure
    if ← accept .key then
      let key ← readPairKey handles fuel
      let value ← readFlowValue handles .flowSequenceEnd fuel
      return .mapping ⟨none, none⟩ [(key, value)] :: (← readFlowItems handles false fuel)
    if ← accept .flowSequenceEnd then
      return []
    let item ← readNode handles false false fuel
    return item :: (← readFlowItems handles false fuel)

/-- The key of a mapping of one entry.  Where it is empty the token after it is passed over. -/
def readPairKey (handles : Handles) : Nat → TokenReader (Node String)
  | 0 => failure
  | fuel + 1 => do
    let token ← peek
    if token == .value || token == .flowEntry || token == .flowSequenceEnd then
      skip
      return Node.empty
    readNode handles false false fuel

/-- The value of an entry in a flow collection, empty if there is none. -/
def readFlowValue (handles : Handles) (close : Token) : Nat → TokenReader (Node String)
  | 0 => failure
  | fuel + 1 => do
    if ← accept .value then
      readNodeUnless handles false false (fun token => token == .flowEntry || token == close) fuel
    else return Node.empty

/-- The entries of a flow mapping, to its end.  A node that no key starts has an empty value. -/
def readFlowEntries (handles : Handles) (isFirst : Bool) :
    Nat → TokenReader (List (Node String × Node String))
  | 0 => failure
  | fuel + 1 => do
    if ← accept .flowMappingEnd then
      return []
    if !isFirst then
      if !(← accept .flowEntry) then failure
    if ← accept .key then
      let key ← readNodeUnless handles false false
        (fun token => token == .value || token == .flowEntry || token == .flowMappingEnd) fuel
      let value ← readFlowValue handles .flowMappingEnd fuel
      return (key, value) :: (← readFlowEntries handles false fuel)
    if ← accept .flowMappingEnd then
      return []
    let key ← readNode handles false false fuel
    return (key, Node.empty) :: (← readFlowEntries handles false fuel)

end

/-- The handles that every document has. -/
def defaultHandles : Handles :=
  [("!", Text.utf8 "!"), ("!!", Text.utf8 "tag:yaml.org,2002:")]

/-- The directives before a document: a version at most once, and each handle at most once. -/
def readDirectives (hasVersion : Bool) (handles : Handles) : Nat → TokenReader Handles
  | 0 => failure
  | fuel + 1 => do
    match ← peek with
    | .version major minor =>
      if hasVersion || major != 1 || (minor != 1 && minor != 2) then failure
      skip
      readDirectives true handles fuel
    | .tagDirective handle start =>
      if (handles.lookup handle).isSome then failure
      skip
      readDirectives hasVersion (handles ++ [(handle, start)]) fuel
    | _ => return handles ++ defaultHandles

/-- Past the markers that end documents. -/
def skipEnds : Nat → TokenReader Unit
  | 0 => failure
  | fuel + 1 => do
    if ← accept .documentEnd then skipEnds fuel

/-- The content of a document after its marker. -/
def readContent (handles : Handles) (fuel : Nat) : TokenReader (Node String) := do
  match ← peek with
  | .version .. | .tagDirective .. | .documentStart | .documentEnd | .streamEnd =>
    return Node.empty
  | _ => readNode handles true false fuel

/-- A document after its directives. -/
def readMarked (fuel : Nat) : TokenReader (Node String) := do
  let handles ← readDirectives false [] fuel
  if ← accept .documentStart then readContent handles fuel else failure

/-- The end of a document. -/
def finish (node : Node String) : TokenReader (Option (Node String)) := do
  let _ ← accept .documentEnd
  return some node

/-- The next document, or `none` at the end of the stream.  Only the first document may start
without a marker. -/
def readDocument (isFirst : Bool) (fuel : Nat) : TokenReader (Option (Node String)) := do
  if !isFirst then
    skipEnds fuel
  match ← peek with
  | .streamEnd => return none
  | .version .. | .tagDirective .. | .documentStart => finish (← readMarked fuel)
  | _ =>
    if isFirst then finish (← readNode defaultHandles true false fuel)
    else failure

/-- Calls that can follow each other without taking up a token are few. -/
def fuelFor (tokens : List Token) : Nat :=
  4 * tokens.length + 8

/-- The documents of a stream; the last is `none` where the stream has a fault. -/
def readDocuments (isFirst : Bool) : Nat → List Token → List (Option (Node String))
  | 0, _ => []
  | fuel + 1, tokens =>
    match (readDocument isFirst (fuelFor tokens)).run tokens with
    | none => [none]
    | some (none, _) => []
    | some (some node, rest) => some node :: readDocuments false fuel rest

def documents (tokens : List Token) : List (Option (Node String)) :=
  readDocuments true (tokens.length + 2) tokens

end Grammar

end GatewayCompiler.Yaml
