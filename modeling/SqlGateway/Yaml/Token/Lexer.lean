import SqlGateway.Yaml.Block
import SqlGateway.Yaml.Token

namespace SqlGateway.Yaml

structure PossibleKey where
  required : Bool
  line : Nat
  column : Nat
  offset : Nat
  before : Nat
deriving DecidableEq, Repr

structure Lexer where
  rest : List Glyph
  tokens : List Token := []
  /-- For each open block collection, innermost first, one more than its column: what belongs to an
  item of it is at this column or further right. -/
  margins : List Nat := []
  keyAllowed : Bool := true
  key : Option PossibleKey := none
  outer : List (Option PossibleKey) := []
deriving DecidableEq, Repr

namespace Lexer

def inFlow (s : Lexer) : Bool := !s.outer.isEmpty

def margin (s : Lexer) : Nat := s.margins.headD 0

def glyph (s : Lexer) : Glyph := s.rest.headD ⟨endMark, 0, 0, 0⟩

def push (s : Lexer) (t : Token) : Lexer := { s with tokens := s.tokens ++ [t] }

def take (s : Lexer) (n : Nat) (t : Token) : Lexer := { s.push t with rest := s.rest.drop n }

/-- Passes blanks, comments and line breaks. No tab can stand where a key may start in a block
collection, and in a block collection it may start on each new line. -/
def toToken (flow keyAllowed comment : Bool) : List Glyph → Bool × List Glyph
  | [] => (keyAllowed, [])
  | g :: rest =>
    if isBreak g.char then toToken flow (keyAllowed || !flow) false rest
    else if comment && g.char ≠ endMark then toToken flow keyAllowed true rest
    else if g.char = ' ' || (g.char = '\t' && (flow || !keyAllowed)) then
      toToken flow keyAllowed false rest
    else if g.char = '#' then toToken flow keyAllowed true rest
    else (keyAllowed, g :: rest)

/-- A key stands on one line and within 1024 characters. -/
def isStale (g : Glyph) (k : PossibleKey) : Bool := k.line < g.line || k.offset + 1024 < g.offset

def forgetKey (stale : PossibleKey → Bool) (k : Option PossibleKey) :
    Except Failure (Option PossibleKey) :=
  match k with
  | none => .ok none
  | some k =>
    if !stale k then .ok (some k) else if k.required then .error .missingColon else .ok none

def forgetStale (s : Lexer) : Except Failure Lexer := do
  let stale := isStale s.glyph
  return { s with key := ← forgetKey stale s.key, outer := ← s.outer.mapM (forgetKey stale) }

def dropKey (s : Lexer) : Except Failure Lexer := do
  return { s with key := ← forgetKey (fun _ => true) s.key }

def closeBlocks (limit : Nat) (s : Lexer) : Lexer :=
  if s.inFlow then s
  else
    { s with
      tokens := s.tokens ++ (s.margins.takeWhile (limit < ·)).map fun _ => Token.blockEnd
      margins := s.margins.dropWhile (limit < ·) }

/-- A colon makes a key of what stands before it on its line, so the mark of the key is put in where
that started. -/
def insert (n : Nat) (t : Token) (s : Lexer) : Lexer :=
  { s with tokens := s.tokens.take n ++ t :: s.tokens.drop n }

def openBlock (column n : Nat) (t : Token) (s : Lexer) : Lexer :=
  if s.inFlow ∨ column < s.margin then s
  else { s.insert n t with margins := (column + 1) :: s.margins }

def noteKey (s : Lexer) : Except Failure Lexer :=
  if !s.keyAllowed then .ok s
  else do
    let g := s.glyph
    let required := !s.inFlow && s.margin == g.column + 1
    return { ← s.dropKey with key := some ⟨required, g.line, g.column, g.offset, s.tokens.length⟩ }

def finish (s : Lexer) : Except Failure Lexer := do
  return { ← (s.closeBlocks 0).dropKey with keyAllowed := false }.push .finish

def directive (s : Lexer) : Except Failure Lexer := do
  let s := { ← (s.closeBlocks 0).dropKey with keyAllowed := false }
  let (d, rest) ← Directive.read (s.rest.drop 1)
  return { s.push (.directive d) with rest }

def documentMarker (t : Token) (s : Lexer) : Except Failure Lexer := do
  return { ← (s.closeBlocks 0).dropKey with keyAllowed := false }.take 3 t

def flowStart (t : Token) (s : Lexer) : Except Failure Lexer := do
  let s ← s.noteKey
  return { s with outer := s.key :: s.outer, key := none, keyAllowed := true }.take 1 t

def flowEnd (t : Token) (s : Lexer) : Except Failure Lexer := do
  let s ← s.dropKey
  let s := match s.outer with
    | [] => s
    | k :: outer => { s with key := k, outer }
  return { s with keyAllowed := false }.take 1 t

def separator (s : Lexer) : Except Failure Lexer := do
  return { ← s.dropKey with keyAllowed := true }.take 1 .separator

def entry (s : Lexer) : Except Failure Lexer := do
  if !s.inFlow && !s.keyAllowed then throw (.misplaced "a sequence entry")
  let s := s.openBlock s.glyph.column s.tokens.length .blockSequence
  return { ← s.dropKey with keyAllowed := true }.take 1 .entry

def explicitKey (s : Lexer) : Except Failure Lexer := do
  if !s.inFlow && !s.keyAllowed then throw (.misplaced "a key")
  let s := s.openBlock s.glyph.column s.tokens.length .blockMapping
  return { ← s.dropKey with keyAllowed := !s.inFlow }.take 1 .key

def value (s : Lexer) : Except Failure Lexer := do
  match s.key with
  | some k =>
    let s := (s.insert k.before .key).openBlock k.column k.before .blockMapping
    return { s with key := none, keyAllowed := false }.take 1 .value
  | none =>
    if !s.inFlow && !s.keyAllowed then throw (.misplaced "a value")
    let s := s.openBlock s.glyph.column s.tokens.length .blockMapping
    return { s with keyAllowed := !s.inFlow }.take 1 .value

def endsAnchor (c : Char) : Bool :=
  endsWord c || ['?', ':', ',', ']', '\x7d', '%', '@', '\x60'].contains c

def anchor (token : String → Token) (s : Lexer) : Except Failure Lexer := do
  let s := { ← s.noteKey with keyAllowed := false }
  let name := Tag.chars ((s.rest.drop 1).takeWhile fun g => isWordChar g.char)
  if name.isEmpty || !endsAnchor (Glyph.charAt s.rest (name.length + 1)) then throw .anchorName
  return s.take (name.length + 1) (token (String.ofList name))

def tag (s : Lexer) : Except Failure Lexer := do
  let s := { ← s.noteKey with keyAllowed := false }
  let (handle, suffix, rest) ← Tag.read s.inFlow s.rest
  return { s.push (.tag handle suffix) with rest }

def blockScalar (folded : Bool) (s : Lexer) : Except Failure Lexer := do
  let s ← s.dropKey
  let (text, rest) ← Block.read folded s.margin (s.rest.drop 1)
  return { s.push (.scalar (String.ofList text) false) with rest, keyAllowed := true }

def quoted (read : List Glyph → Scanned) (s : Lexer) : Except Failure Lexer := do
  let s := { ← s.noteKey with keyAllowed := false }
  let (text, rest) ← read (s.rest.drop 1)
  return { s.push (.scalar (String.ofList text) false) with rest }

def plainScalar (s : Lexer) : Except Failure Lexer := do
  let s ← s.noteKey
  let (text, newLine, rest) ← plain s.margin s.inFlow .nothing s.rest
  return { s.push (.scalar (String.ofList text) true) with rest, keyAllowed := newLine }

def indicators : List Char :=
  ['-', '?', ':', ',', '[', ']', '\x7b', '\x7d', '#', '&', '*', '!', '|', '>', '\'', '"', '%', '@',
    '\x60']

/-- A minus starts a plain scalar before what is no blank; in a block collection a question mark and
a colon do so too. -/
def startsPlain (flow : Bool) (c next : Char) : Bool :=
  !(endsWord c || indicators.contains c)
    || (c == '-' && !isBlank next)
    || (!flow && (c == '?' || c == ':') && !endsWord next)

/-- Passes what stands before the next token and closes the block collections that it is left of. -/
def settle (s : Lexer) : Except Failure Lexer := do
  let (keyAllowed, rest) := toToken s.inFlow s.keyAllowed false s.rest
  let s ← { s with keyAllowed, rest }.forgetStale
  return s.closeBlocks (s.glyph.column + 1)

def token (s : Lexer) : Except Failure Lexer := do
  let c := s.glyph.char
  let second := Glyph.charAt s.rest 1
  if c = endMark then s.finish
  else if s.glyph.column = 0 ∧ c = '%' then s.directive
  else if Glyph.isMarker '-' s.rest then s.documentMarker .documentStart
  else if Glyph.isMarker '.' s.rest then s.documentMarker .documentEnd
  else if c = '[' then s.flowStart .flowSequence
  else if c = '\x7b' then s.flowStart .flowMapping
  else if c = ']' then s.flowEnd .flowSequenceEnd
  else if c = '\x7d' then s.flowEnd .flowMappingEnd
  else if c = ',' then s.separator
  else if c = '-' ∧ endsWord second then s.entry
  else if c = '?' ∧ (s.inFlow ∨ endsWord second) then s.explicitKey
  else if c = ':' ∧ (s.inFlow ∨ endsWord second) then s.value
  else if c = '*' then s.anchor .reference
  else if c = '&' then s.anchor .anchor
  else if c = '!' then s.tag
  else if c = '|' ∧ !s.inFlow then s.blockScalar false
  else if c = '>' ∧ !s.inFlow then s.blockScalar true
  else if c = '\'' then s.quoted (single false .nothing)
  else if c = '"' then s.quoted (double .outside .nothing)
  else if startsPlain s.inFlow c second then s.plainScalar
  else throw (.strayCharacter c)

def next (s : Lexer) : Except Failure Lexer := do (← s.settle).token

def run : Nat → Lexer → Except Failure (List Token)
  | 0, _ => .error .tooDeep
  | fuel + 1, s => do
    let s ← s.next
    if s.tokens.getLast? = some .finish then return s.tokens
    run fuel s

end Lexer

def Token.ofText (text : String) : Except Failure (List Token) := do
  let gs ← Glyph.ofText text
  Lexer.run (gs.length + 1) { rest := gs }

end SqlGateway.Yaml
