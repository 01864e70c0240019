import GatewayCompiler.Yaml.BlockScalar
import GatewayCompiler.Yaml.PlainScalar
import GatewayCompiler.Yaml.Tag

/-!
# From text to tokens

Whether a word is a key shows only at the colon after it, so the place of a possible key is kept until
then; it has to be on the same line and not too far back.  In block collections the column of an entry
decides which collections it ends or starts.

Tokens are read up to the first fault.  A list of tokens that does not end the stream stops at one.
-/

namespace GatewayCompiler.Yaml

/-- A place where a key may have started. -/
structure PossibleKey where
  /-- Whether there must be a key, because the line starts at the column of a block mapping. -/
  isRequired : Bool
  /-- How many tokens stand before it. -/
  position : Nat
  place : Cursor

/-- The state between two tokens.  A margin is the column that the entries of a nested block
collection have to reach: one more than the column of the collection, and zero outside of all. -/
structure Lexer where
  cursor : Cursor
  /-- The tokens read so far, the last first. -/
  tokens : List Token
  /-- How many tokens these are. -/
  count : Nat
  margin : Nat
  outerMargins : List Nat
  mayStartKey : Bool
  /-- The possible key of this level of flow collections. -/
  key : Option PossibleKey
  /-- Those of the levels around it. -/
  outerKeys : List (Option PossibleKey)

namespace Lexer

def start (cs : List Char) : Lexer :=
  ⟨Cursor.start cs, [], 0, 0, [], true, none, []⟩

def inFlow (lexer : Lexer) : Bool :=
  !lexer.outerKeys.isEmpty

def push (lexer : Lexer) (token : Token) : Lexer :=
  { lexer with tokens := token :: lexer.tokens, count := lexer.count + 1 }

/-- Puts a token and goes on after the next `n` characters. -/
def pushOver (lexer : Lexer) (token : Token) (n : Nat) : Lexer :=
  { lexer.push token with cursor := lexer.cursor.advance n }

/-- Puts a token where `position` tokens stand before it. -/
def pushAt (lexer : Lexer) (position : Nat) (token : Token) : Lexer :=
  { lexer with
    tokens := lexer.tokens.insertIdx (lexer.count - position) token
    count := lexer.count + 1 }

def setMayStartKey (lexer : Lexer) (may : Bool) : Lexer :=
  { lexer with mayStartKey := may }

/-- Ends the block collections that need a greater margin than this. -/
def closeTo (margin : Nat) : List Nat → Lexer → Lexer
  | [], lexer => lexer
  | outer :: rest, lexer =>
    if margin < lexer.margin then
      closeTo margin rest { lexer.push .blockEnd with margin := outer, outerMargins := rest }
    else lexer

def unroll (lexer : Lexer) (margin : Nat) : Lexer :=
  if lexer.inFlow then lexer else closeTo margin lexer.outerMargins lexer

/-- Starts a block collection at the column unless the column belongs to one already. -/
def roll (lexer : Lexer) (column position : Nat) (token : Token) : Lexer :=
  if !lexer.inFlow && lexer.margin ≤ column then
    { lexer.pushAt position token with
      margin := column + 1
      outerMargins := lexer.margin :: lexer.outerMargins }
  else lexer

/-- Gives up the possible key of this level. -/
def dropKey (lexer : Lexer) : Option Lexer :=
  match lexer.key with
  | some key => if key.isRequired then none else some { lexer with key := none }
  | none => some lexer

/-- Keeps this place in mind, if a key may start here. -/
def saveKey (lexer : Lexer) : Option Lexer := do
  if lexer.mayStartKey then
    let lexer ← lexer.dropKey
    let isRequired := !lexer.inFlow && lexer.margin == lexer.cursor.column + 1
    return { lexer with key := some ⟨isRequired, lexer.count, lexer.cursor⟩ }
  else return lexer

/-- Whether a key that started at a place cannot end here. -/
def isStale (cursor : Cursor) (key : PossibleKey) : Bool :=
  key.place.line < cursor.line || key.place.index + 1024 < cursor.index

/-- The possible key as long as it is possible. -/
def refresh? (cursor : Cursor) : Option PossibleKey → Option (Option PossibleKey)
  | some key =>
    if isStale cursor key then
      if key.isRequired then none else some none
    else some (some key)
  | none => some none

def dropStaleKeys (lexer : Lexer) : Option Lexer := do
  let key ← refresh? lexer.cursor lexer.key
  let outerKeys ← lexer.outerKeys.mapM (refresh? lexer.cursor)
  return { lexer with key, outerKeys }

/-- Past blanks, comments and line breaks, after which a key may start.  A tab is a blank only where
no key may start. -/
def skipBlanks : Nat → Lexer → Lexer
  | 0, lexer => lexer
  | fuel + 1, lexer =>
    let isBlank (c : Char) : Bool := c == ' ' || ((lexer.inFlow || !lexer.mayStartKey) && c == '\t')
    let cursor := (lexer.cursor.skipWhile isBlank).skipComment
    if cursor.char?.any isBreak then
      skipBlanks fuel
        { lexer with cursor := cursor.skipBreak, mayStartKey := lexer.mayStartKey || !lexer.inFlow }
    else { lexer with cursor }

/-- A byte order mark at the start of the text takes a column. -/
def skipByteOrderMark (lexer : Lexer) : Lexer :=
  if lexer.cursor.index == 0 && lexer.cursor.char? == some '\ufeff' then
    { lexer with cursor := lexer.cursor.advance 1 }
  else lexer

/-- A token after which the block collections before it have ended. -/
def leaveBlocks (lexer : Lexer) : Option Lexer := do
  let lexer ← (lexer.unroll 0).dropKey
  return lexer.setMayStartKey false

def readStreamEnd (lexer : Lexer) : Option Lexer := do
  return (← lexer.leaveBlocks).push .streamEnd

def readMarker (lexer : Lexer) (token : Token) : Option Lexer := do
  return (← lexer.leaveBlocks).pushOver token 3

def readDirective (lexer : Lexer) : Option Lexer := do
  let lexer ← lexer.leaveBlocks
  let (token, cursor) ← Directive.read (lexer.cursor.advance 1)
  return { lexer.push token with cursor }

def readFlowStart (lexer : Lexer) (token : Token) : Option Lexer := do
  let lexer ← lexer.saveKey
  let lexer := { lexer with key := none, outerKeys := lexer.key :: lexer.outerKeys }
  return (lexer.setMayStartKey true).pushOver token 1

/-- The level that a flow collection is in. -/
def leaveFlow (lexer : Lexer) : Lexer :=
  match lexer.outerKeys with
  | key :: outerKeys => { lexer with key, outerKeys }
  | [] => lexer

def readFlowEnd (lexer : Lexer) (token : Token) : Option Lexer := do
  let lexer ← lexer.dropKey
  return (lexer.leaveFlow.setMayStartKey false).pushOver token 1

def readFlowEntry (lexer : Lexer) : Option Lexer := do
  let lexer ← lexer.dropKey
  return (lexer.setMayStartKey true).pushOver .flowEntry 1

/-- Starts a block collection here, where one may start. -/
def startBlock (lexer : Lexer) (token : Token) : Option Lexer :=
  if lexer.inFlow then some lexer
  else if lexer.mayStartKey then some (lexer.roll lexer.cursor.column lexer.count token)
  else none

def readBlockEntry (lexer : Lexer) : Option Lexer := do
  let lexer ← lexer.startBlock .blockSequenceStart
  let lexer ← lexer.dropKey
  return (lexer.setMayStartKey true).pushOver .blockEntry 1

def readKey (lexer : Lexer) : Option Lexer := do
  let lexer ← lexer.startBlock .blockMappingStart
  let lexer ← lexer.dropKey
  return (lexer.setMayStartKey (!lexer.inFlow)).pushOver .key 1

/-- A colon makes a key of what started at the possible key. -/
def readValue (lexer : Lexer) : Option Lexer := do
  match lexer.key with
  | some key =>
    let lexer := (lexer.pushAt key.position .key).roll key.place.column key.position
      .blockMappingStart
    return ({ lexer with key := none }.setMayStartKey false).pushOver .value 1
  | none =>
    let lexer ← lexer.startBlock .blockMappingStart
    return (lexer.setMayStartKey (!lexer.inFlow)).pushOver .value 1

/-- A token that may be a key, or belong to one. -/
def readKeyPart (lexer : Lexer) (read : Cursor → Option (Token × Cursor)) : Option Lexer := do
  let lexer ← lexer.saveKey
  let (token, cursor) ← read lexer.cursor
  return { (lexer.setMayStartKey false).push token with cursor }

def readReference (cursor : Cursor) : Option (Token × Cursor) := do
  let (name, next) ← Anchor.readName (cursor.advance 1)
  return (.reference name, next)

def readAnchor (cursor : Cursor) : Option (Token × Cursor) := do
  let (name, next) ← Anchor.readName (cursor.advance 1)
  return (.anchor name, next)

def readQuoted (quote : Char) (cursor : Cursor) : Option (Token × Cursor) := do
  let (text, next) ← QuotedScalar.read quote (cursor.left + 2) [] (cursor.advance 1)
  return (.scalar (String.ofList text) false, next)

def readPlain (lexer : Lexer) : Option Lexer := do
  let lexer ← lexer.saveKey
  let cursor := lexer.cursor
  let (scalar, cursor) ←
    PlainScalar.read lexer.inFlow lexer.margin (cursor.left + 1) [] Gap.none cursor
  let lexer := lexer.setMayStartKey scalar.endsLine
  return { lexer.push (.scalar (String.ofList scalar.text) true) with cursor }

def readBlockScalar (lexer : Lexer) (isLiteral : Bool) : Option Lexer := do
  let lexer ← lexer.dropKey
  let (text, cursor) ← BlockScalar.read isLiteral lexer.margin (lexer.cursor.advance 1)
  return { (lexer.setMayStartKey true).push (.scalar (String.ofList text) false) with cursor }

/-- Whether a plain scalar can start with a character, given the one after it.  A hyphen can unless a
blank follows; a question mark or colon in a block only. -/
def canStartPlain (inFlow : Bool) (c : Char) (next : Option Char) : Bool :=
  if c == '-' then !next.any isSpaceOrTab
  else if c == '?' || c == ':' then !inFlow && !isWordEnd next
  else !(isWordEnd (some c) || ",[]\x7b\x7d#&*!|>'\"%@\x60".toList.contains c)

/-- The next token of a text that goes on with `c`. -/
def readTokenAt (lexer : Lexer) (c : Char) : Option Lexer :=
  let next := lexer.cursor.charAt? 1
  let isIndicator := lexer.inFlow || isWordEnd next
  if lexer.cursor.column == 0 && c == '%' then lexer.readDirective
  else if lexer.cursor.atDocumentStart then lexer.readMarker .documentStart
  else if lexer.cursor.atDocumentEnd then lexer.readMarker .documentEnd
  else match c with
  | '[' => lexer.readFlowStart .flowSequenceStart
  | '\x7b' => lexer.readFlowStart .flowMappingStart
  | ']' => lexer.readFlowEnd .flowSequenceEnd
  | '\x7d' => lexer.readFlowEnd .flowMappingEnd
  | ',' => lexer.readFlowEntry
  | '*' => lexer.readKeyPart readReference
  | '&' => lexer.readKeyPart readAnchor
  | '!' => lexer.readKeyPart (Tag.read lexer.inFlow)
  | '\x27' => lexer.readKeyPart (readQuoted '\x27')
  | '\x22' => lexer.readKeyPart (readQuoted '\x22')
  | c =>
    if c == '-' && isWordEnd next then lexer.readBlockEntry
    else if c == '?' && isIndicator then lexer.readKey
    else if c == ':' && isIndicator then lexer.readValue
    else if c == '|' && !lexer.inFlow then lexer.readBlockScalar true
    else if c == '>' && !lexer.inFlow then lexer.readBlockScalar false
    else if canStartPlain lexer.inFlow c next then lexer.readPlain
    else none

/-- The state after the next token, or `none` at a fault. -/
def readToken (lexer : Lexer) : Option Lexer := do
  let lexer := lexer.skipByteOrderMark
  let lexer ← (lexer.skipBlanks (lexer.cursor.left + 1)).dropStaleKeys
  let lexer := lexer.unroll (lexer.cursor.column + 1)
  match lexer.cursor.char? with
  | some c => lexer.readTokenAt c
  | none => lexer.readStreamEnd

/-- All tokens.  A text that was not taken in to its end has no end of the stream. -/
def readAll (isWhole : Bool) : Nat → Lexer → List Token
  | 0, lexer => lexer.tokens.reverse
  | fuel + 1, lexer =>
    match lexer.readToken with
    | none => lexer.tokens.reverse
    | some next =>
      if next.tokens.head? == some .streamEnd then
        if isWhole then next.tokens.reverse else lexer.tokens.reverse
      else readAll isWhole fuel next

end Lexer

/-- The tokens of a text.  Each takes up a character at least. -/
def tokens (text : String) : List Token :=
  let (cs, isWhole) := readablePart text.toList
  Lexer.readAll isWhole (cs.length + 2) (Lexer.start cs)

end GatewayCompiler.Yaml
