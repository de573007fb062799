import SqlGateway.Text.Number
import SqlGateway.Yaml.Scalar

namespace SqlGateway.Yaml.Block

inductive Chomp where
  | strip
  | clip
  | keep
deriving DecidableEq, Repr

def chomp? : Char → Option Chomp
  | '-' => some .strip
  | '+' => some .keep
  | _ => none

def width? (c : Char) : Option Nat := if Text.isDigit c then some (Text.digitValue c) else none

def marks (gs : List Glyph) : Except Failure (Chomp × Nat × List Glyph) :=
  let a := Glyph.charAt gs 0
  let b := Glyph.charAt gs 1
  let (chomp, width, used) := match chomp? a, width? a with
    | some c, _ => match width? b with
      | some w => (c, some w, 2)
      | none => (c, none, 1)
    | none, some w => match chomp? b with
      | some c => (c, some w, 2)
      | none => (Chomp.clip, some w, 1)
    | none, none => (.clip, none, 0)
  if width = some 0 then .error .blockHeader else .ok (chomp, width.getD 0, gs.drop used)

/-- The breaks before the first line, and the widest column that they reach. A margin of 0 is not
known yet. -/
def opening (margin widest : Nat) : List Glyph → Except Failure (List Char × Nat × List Glyph)
  | [] => .ok ([], widest, [])
  | g :: rest =>
    let outside := margin == 0 || g.column < margin
    if outside && g.char = ' ' then opening margin widest rest
    else if outside && g.char = '\t' then .error .tab
    else if isBreak g.char then
      (opening margin (max widest g.column) rest).map fun (cs, w, r) => (g.char :: cs, w, r)
    else .ok ([], max widest g.column, g :: rest)

inductive Stage where
  | within (blank : Bool)
  /-- Behind a line: its break, the breaks of the empty lines since, and whether the line started
  with a blank. -/
  | behind (first more : List Char) (blank : Bool)
deriving DecidableEq, Repr

def between (folded : Bool) (first more : List Char) (blank : Bool) (c : Char) : List Char :=
  if folded && first == ['\n'] && !blank && !isBlank c then
    (if more.isEmpty then [' '] else []) ++ more
  else first ++ more

def lines (folded : Bool) (chomp : Chomp) (margin : Nat) (stage : Stage) : List Glyph → Scanned
  | [] => .ok ([], [])
  | g :: rest =>
    match stage with
    | .within blank =>
      if isBreak g.char then lines folded chomp margin (.behind [g.char] [] blank) rest
      else if g.char = endMark then .ok ([], g :: rest)
      else Scanned.prepend [g.char] (lines folded chomp margin (.within blank) rest)
    | .behind first more blank =>
      if g.column < margin && g.char = ' ' then
        lines folded chomp margin (.behind first more blank) rest
      else if g.column < margin && g.char = '\t' then .error .tab
      else if isBreak g.char then
        lines folded chomp margin (.behind first (more ++ [g.char]) blank) rest
      else if g.column = margin && g.char ≠ endMark then
        Scanned.prepend (between folded first more blank g.char ++ [g.char])
          (lines folded chomp margin (.within (isBlank g.char)) rest)
      else
        .ok ((if chomp = .strip then [] else first) ++ (if chomp = .keep then more else []),
          g :: rest)

/-- A block scalar behind its first mark. `outer` is the margin of the collection that it is in. -/
def read (folded : Bool) (outer : Nat) (gs : List Glyph) : Scanned := do
  let (chomp, width, gs) ← marks gs
  let gs ← Glyph.endLine .blockHeader gs
  let given := if width = 0 then 0 else outer - 1 + width
  let (breaks, widest, gs) ← opening given 0 gs
  let margin := if given = 0 then max widest (max outer 1) else given
  lines folded chomp margin (.behind [] breaks false) gs

end SqlGateway.Yaml.Block
