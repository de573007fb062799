import SqlGateway.Yaml.Node
import SqlGateway.Yaml.Token.Lexer

namespace SqlGateway.Yaml

structure Source where
  tokens : List Token
  handles : List (String × Octets) := []
  anchors : List (String × Nat) := []

abbrev Reader := StateT Source (Except Failure)

namespace Reader

def peek : Reader Token := do return (← get).tokens.headD .finish

def skip : Reader Unit := modify fun s => { s with tokens := s.tokens.drop 1 }

def token? (t : Token) : Reader Bool := do
  if (← peek) = t then skip; return true
  return false

def token (t : Token) (name : String) : Reader Unit := do
  unless ← token? t do throw (.expected name)

/-- Numbers an anchor by the names that were anchored before it. A name that is anchored again
stands for the new node from here on. -/
def newAnchor (name : String) : Reader Nat := do
  let known := (← get).anchors
  modify fun s => { s with anchors := (name, known.length) :: known.filter (·.1 ≠ name) }
  return known.length

def resolveTag (handle : String) (suffix : Octets) : Reader Octets := do
  if handle = "" then return suffix
  match ((← get).handles ++ Tag.standardHandles).lookup handle with
  | some text => return text ++ suffix
  | none => throw (.unknownHandle handle)

def anchor? : Reader (Option String) := do
  match ← peek with
  | .anchor name => skip; return some name
  | _ => return none

def tag? : Reader (Option (String × Octets)) := do
  match ← peek with
  | .tag handle suffix => skip; return some (handle, suffix)
  | _ => return none

def properties : Reader Properties := do
  let first ← anchor?
  let tag ← tag?
  let name := first.or (← if first.isNone && tag.isSome then anchor? else pure none)
  let tag ← tag.mapM fun (handle, suffix) => resolveTag handle suffix
  return ⟨← name.mapM newAnchor, tag⟩

/-- A scalar with the tag `!` alone is as one without a tag. -/
def scalarProperties (p : Properties) : Properties :=
  if p.tag = some [0x21] then { p with tag := none } else p

structure Place where
  block : Bool
  indentless : Bool
deriving DecidableEq, Repr

def Place.item : Place := ⟨true, false⟩
def Place.field : Place := ⟨true, true⟩
def Place.flow : Place := ⟨false, false⟩

def endsField (t : Token) : Bool := t = .key || t = .value || t = .blockEnd

def endsItem (t : Token) : Bool := t = .entry || t = .blockEnd

def endsPair (t : Token) : Bool := t = .separator || t = .flowSequenceEnd

def endsFlowField (t : Token) : Bool := t = .separator || t = .flowMappingEnd

mutual

def node : Nat → Place → Reader Node
  | 0, _ => throw .tooDeep
  | fuel + 1, place => do
    match ← peek with
    | .reference name =>
      skip
      match (← get).anchors.lookup name with
      | some number => return .reference number
      | none => throw (.unknownAnchor name)
    | _ =>
      let p ← properties
      let t ← peek
      match t with
      | .scalar text plain => skip; return .scalar (scalarProperties p) text plain
      | .flowSequence => skip; return .sequence p (← flowItems fuel true)
      | .flowMapping => skip; return .mapping p (← flowFields fuel true)
      | _ =>
        if place.indentless && t = .entry then return .sequence p (← indentlessItems fuel)
        else if place.block && t = .blockSequence then
          skip
          return .sequence p (← blockItems fuel)
        else if place.block && t = .blockMapping then
          skip
          return .mapping p (← blockFields fuel)
        else if p.anchor.isNone && p.tag.isNone then throw (.expected "a node")
        else return .scalar p "" true

def nodeUnless : Nat → (Token → Bool) → Place → Reader Node
  | 0, _, _ => throw .tooDeep
  | fuel + 1, isEnd, place => do
    if isEnd (← peek) then return .empty
    node fuel place

def blockItems : Nat → Reader (List Node)
  | 0 => throw .tooDeep
  | fuel + 1 => do
    if ← token? .blockEnd then return []
    token .entry "an entry"
    let n ← nodeUnless fuel endsItem .item
    return n :: (← blockItems fuel)

def indentlessItems : Nat → Reader (List Node)
  | 0 => throw .tooDeep
  | fuel + 1 => do
    if !(← token? .entry) then return []
    let n ← nodeUnless fuel (fun t => endsField t || t = .entry) .item
    return n :: (← indentlessItems fuel)

def blockFields : Nat → Reader (List (Node × Node))
  | 0 => throw .tooDeep
  | fuel + 1 => do
    if ← token? .blockEnd then return []
    token .key "a key"
    let k ← nodeUnless fuel endsField .field
    let v ← if ← token? .value then nodeUnless fuel endsField .field else pure .empty
    return (k, v) :: (← blockFields fuel)

def flowItems : Nat → Bool → Reader (List Node)
  | 0, _ => throw .tooDeep
  | fuel + 1, first => do
    if ← token? .flowSequenceEnd then return []
    unless first do token .separator "a comma or the end of the sequence"
    if ← token? .flowSequenceEnd then return []
    let n ← if ← token? .key then flowPair fuel else node fuel .flow
    return n :: (← flowItems fuel false)

/-- A mapping of one entry without its marks. Where the key is left out, so is the token behind
it. -/
def flowPair : Nat → Reader Node
  | 0 => throw .tooDeep
  | fuel + 1 => do
    let t ← peek
    let k ← if t = .value || endsPair t then do skip; pure .empty else node fuel .flow
    let v ← if ← token? .value then nodeUnless fuel endsPair .flow else pure .empty
    return .mapping {} [(k, v)]

def flowFields : Nat → Bool → Reader (List (Node × Node))
  | 0, _ => throw .tooDeep
  | fuel + 1, first => do
    if ← token? .flowMappingEnd then return []
    unless first do token .separator "a comma or the end of the mapping"
    if ← token? .flowMappingEnd then return []
    if ← token? .key then
      let k ← nodeUnless fuel (fun t => t = .value || endsFlowField t) .flow
      let v ← if ← token? .value then nodeUnless fuel endsFlowField .flow else pure .empty
      return (k, v) :: (← flowFields fuel false)
    let k ← node fuel .flow
    return (k, .empty) :: (← flowFields fuel false)

end

def directives : Nat → Bool → Reader Unit
  | 0, _ => throw .tooDeep
  | fuel + 1, versioned => do
    match ← peek with
    | .directive .version =>
      if versioned then throw .directive
      skip
      directives fuel true
    | .directive (.handle name text) =>
      if ((← get).handles.lookup name).isSome then throw .directive
      skip
      modify fun s => { s with handles := (name, text) :: s.handles }
      directives fuel versioned
    | _ => return ()

def startsDocument : Token → Bool
  | .directive _ | .documentStart => true
  | _ => false

/-- The only document of the source; one without content is an empty scalar. -/
def document (fuel : Nat) : Reader Node := do
  let t ← peek
  let root ←
    if t = .finish then pure .empty
    else if startsDocument t then do
      directives fuel false
      token .documentStart "the start of the document"
      nodeUnless fuel (fun t => startsDocument t || t = .documentEnd || t = .finish) .item
    else node fuel .item
  modify fun s => { s with tokens := s.tokens.dropWhile (· = .documentEnd) }
  if (← peek) ≠ .finish then throw .severalDocuments
  return root

end Reader

def Node.ofText (text : String) : Except Failure Node := do
  let tokens ← Token.ofText text
  let (root, _) ← Reader.document (3 * tokens.length + 3) { tokens }
  return root

end SqlGateway.Yaml
