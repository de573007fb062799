import SqlGateway.Yaml.Character
import SqlGateway.Yaml.Failure

namespace SqlGateway.Yaml

structure Glyph where
  char : Char
  line : Nat
  column : Nat
  offset : Nat
deriving DecidableEq, Repr, Inhabited

namespace Glyph

def unifyBreaks : List Char → List Char
  | [] => []
  | '\r' :: '\n' :: cs => '\n' :: unifyBreaks cs
  | c :: cs => (if c = '\r' ∨ c = '\x85' then '\n' else c) :: unifyBreaks cs

def place (line column offset : Nat) : List Char → List Glyph
  | [] => [⟨endMark, line, column, offset⟩]
  | c :: cs =>
    ⟨c, line, column, offset⟩ ::
      (if isBreak c then place (line + 1) 0 (offset + 1) cs
       else place line (column + 1) (offset + 1) cs)

/-- The glyphs of a text. A byte order mark in front takes a column and is passed over; carriage
returns and next-line characters read as line feeds, two that belong together as one. -/
def ofText (text : String) : Except Failure (List Glyph) :=
  match text.toList.find? fun c => !isReadable c with
  | some c => .error (.control c.toNat)
  | none =>
    match place 0 0 0 (unifyBreaks text.toList) with
    | g :: rest => .ok (if g.char = '\ufeff' then rest else g :: rest)
    | [] => .ok []

def charAt (gs : List Glyph) (n : Nat) : Char := ((gs[n]?).map (·.char)).getD endMark

def isMarker (mark : Char) (gs : List Glyph) : Bool :=
  (gs.head?.map (·.column)) = some 0 && charAt gs 0 == mark && charAt gs 1 == mark
    && charAt gs 2 == mark && endsWord (charAt gs 3)

def isDocumentMarker (gs : List Glyph) : Bool := isMarker '-' gs || isMarker '.' gs

def dropBlanks (gs : List Glyph) : List Glyph := gs.dropWhile fun g => isBlank g.char

def endLine (failure : Failure) (gs : List Glyph) : Except Failure (List Glyph) :=
  let gs := dropBlanks gs
  let gs :=
    if charAt gs 0 = '#' then gs.dropWhile fun g => !(isBreak g.char || g.char == endMark) else gs
  if isBreak (charAt gs 0) then .ok (gs.drop 1)
  else if charAt gs 0 = endMark then .ok gs
  else .error failure

end Glyph
end SqlGateway.Yaml
