import SqlGateway.Text.Hex
import SqlGateway.Yaml.Glyph

namespace SqlGateway.Yaml

abbrev Scanned := Except Failure (List Char × List Glyph)

def Scanned.prepend (cs : List Char) (r : Scanned) : Scanned :=
  r.map fun (t, rest) => (cs ++ t, rest)

inductive Gap where
  | blanks (cs : List Char)
  /-- Line breaks; an escaped one is not the first of them. -/
  | broken (first : Option Char) (more : List Char)
deriving DecidableEq, Repr

namespace Gap

def nothing : Gap := blanks []

def add (c : Char) : Gap → Gap
  | blanks cs => if isBreak c then broken (some c) [] else blanks (cs ++ [c])
  | broken first more => if isBreak c then broken first (more ++ [c]) else broken first more

def isBroken : Gap → Bool
  | blanks _ => false
  | broken .. => true

def isNothing : Gap → Bool
  | blanks cs => cs.isEmpty
  | broken .. => false

/-- The text that the gap stands for. Only line feeds are folded. -/
def text : Gap → List Char
  | blanks cs => cs
  | broken none more => more
  | broken (some c) more =>
    if c = '\n' then if more.isEmpty then [' '] else more else c :: more

end Gap

def single (marked : Bool) (gap : Gap) : List Glyph → Scanned
  | [] => .error .openQuote
  | g :: rest =>
    if marked then
      if g.char = '\'' then Scanned.prepend ['\''] (single false .nothing rest)
      else .ok ([], g :: rest)
    else if isBlank g.char || isBreak g.char then single false (gap.add g.char) rest
    else if Glyph.isDocumentMarker (g :: rest) || g.char = endMark then .error .openQuote
    else if g.char = '\'' then Scanned.prepend gap.text (single true .nothing rest)
    else Scanned.prepend (gap.text ++ [g.char]) (single false .nothing rest)

def escaped : Char → Option Char
  | '0' => some '\x00'
  | 'a' => some '\x07'
  | 'b' => some '\x08'
  | 't' | '\t' => some '\t'
  | 'n' => some '\n'
  | 'v' => some '\x0b'
  | 'f' => some '\x0c'
  | 'r' => some '\r'
  | 'e' => some '\x1b'
  | ' ' => some ' '
  | '"' => some '"'
  | '/' => some '/'
  | '\\' => some '\\'
  | 'N' => some '\x85'
  | '_' => some '\xa0'
  | 'L' => some '\u2028'
  | 'P' => some '\u2029'
  | _ => none

def codeLength : Char → Option Nat
  | 'x' => some 2
  | 'u' => some 4
  | 'U' => some 8
  | _ => none

inductive EscapeStage where
  | outside
  | behindBackslash
  | code (digits value : Nat)
deriving DecidableEq, Repr

def isScalarValue (n : Nat) : Bool := n < 0xd800 || (0xdfff < n && n ≤ 0x10ffff)

def double (stage : EscapeStage) (gap : Gap) : List Glyph → Scanned
  | [] => .error .openQuote
  | g :: rest =>
    match stage with
    | .outside =>
      if isBlank g.char || isBreak g.char then double .outside (gap.add g.char) rest
      else if Glyph.isDocumentMarker (g :: rest) || g.char = endMark then .error .openQuote
      else if g.char = '"' then .ok (gap.text, rest)
      else if g.char = '\\' then Scanned.prepend gap.text (double .behindBackslash .nothing rest)
      else Scanned.prepend (gap.text ++ [g.char]) (double .outside .nothing rest)
    | .behindBackslash =>
      if isBreak g.char then double .outside (.broken none []) rest
      else match escaped g.char, codeLength g.char with
        | some c, _ => Scanned.prepend [c] (double .outside .nothing rest)
        | none, some digits => double (.code digits 0) .nothing rest
        | none, none => .error .escape
    | .code digits value =>
      match Text.Hex.digitValue? g.char with
      | none => .error .escape
      | some d =>
        let value := 16 * value + d
        if 1 < digits then double (.code (digits - 1) value) .nothing rest
        else if isScalarValue value then
          Scanned.prepend [Char.ofNat value] (double .outside .nothing rest)
        else .error .escape

def endsPlain (flow : Bool) (gs : List Glyph) : Bool :=
  let c := Glyph.charAt gs 0
  (c == ':' && endsWord (Glyph.charAt gs 1)) || (flow && isFlowMark c)

def isStrayColon (gs : List Glyph) : Bool :=
  let d := Glyph.charAt gs 1
  Glyph.charAt gs 0 == ':' && (isFlowMark d || d == '?')

/-- A plain scalar whose lines are indented by `margin` columns at least; and whether it ended on a
new line. -/
def plain (margin : Nat) (flow : Bool) (gap : Gap) :
    List Glyph → Except Failure (List Char × Bool × List Glyph)
  | [] => .ok ([], gap.isBroken, [])
  | g :: rest =>
    if g.char = '\t' && gap.isBroken && g.column < margin then .error .tab
    else if isBlank g.char || isBreak g.char then plain margin flow (gap.add g.char) rest
    else if g.char = endMark || (!gap.isNothing && ((!flow && g.column < margin)
        || Glyph.isDocumentMarker (g :: rest) || g.char = '#')) then
      .ok ([], gap.isBroken, g :: rest)
    else if flow && isStrayColon (g :: rest) then .error .colon
    else if endsPlain flow (g :: rest) then .ok ([], gap.isBroken, g :: rest)
    else (plain margin flow .nothing rest).map fun (t, r) => (gap.text ++ g.char :: t, r)

end SqlGateway.Yaml
