import SqlGateway.Text.Hex
import SqlGateway.Yaml.Character
import SqlGateway.Yaml.Resolution

namespace SqlGateway.Yaml

inductive Style where
  | plain
  | single
  | double
  | literal
deriving DecidableEq, Repr

namespace Style

def adjacent (p q : Char → Bool) : List Char → Bool
  | [] => false
  | [_] => false
  | c :: d :: cs => (p c && q d) || adjacent p q (d :: cs)

def isSpace (c : Char) : Bool := c == ' '

def isMultiline (cs : List Char) : Bool := cs.any isBreak

def isEscaped (cs : List Char) : Bool := cs.any fun c => !isPrintable c

def startMarks : List Char :=
  ['#', ',', '[', ']', '\x7b', '\x7d', '&', '*', '!', '|', '>', '\'', '"', '%', '@', '\x60']

def startsOtherwise (cs : List Char) : Bool :=
  match cs with
  | [] => false
  | c :: rest =>
    startMarks.contains c
      || ((c == '?' || c == '-' || c == ':') && ((rest.head?.map endsWord).getD true))
      || ['-', '-', '-'].isPrefixOf cs || ['.', '.', '.'].isPrefixOf cs

def endsEarly (cs : List Char) : Bool :=
  adjacent (· == ':') endsWord cs || adjacent endsWord (· == '#') cs || cs.getLast? == some ':'

def plainAllowed (cs : List Char) : Bool :=
  !isMultiline cs && !isEscaped cs && cs.head? ≠ some ' ' && cs.getLast? ≠ some ' '
    && !startsOtherwise cs && !endsEarly cs

def singleAllowed (cs : List Char) : Bool :=
  !isEscaped cs && !adjacent isSpace isBreak cs && !adjacent isBreak isSpace cs

def literalAllowed (cs : List Char) : Bool :=
  !isEscaped cs && !adjacent isSpace isBreak cs && cs.getLast? ≠ some ' '

def quotes (cs : List Char) : Style := if singleAllowed cs then single else double

def ofText (s : String) : Style :=
  let cs := s.toList
  if cs.contains '\n' then if literalAllowed cs then literal else double
  else if Resolution.isAmbiguous s then quotes cs
  else if plainAllowed cs then plain
  else quotes cs

def margin (indent : Nat) : List Char := List.replicate indent ' '

/-- A text in single quotes. A mark is doubled; after a break the next line is indented. -/
def writeSingle (indent : Nat) (broken : Bool) : List Char → List Char
  | [] => (if broken then margin indent else []) ++ ['\'']
  | c :: cs =>
    if isBreak c then c :: writeSingle indent true cs
    else
      (if broken then margin indent else []) ++ (if c = '\'' then ['\'', '\''] else [c])
        ++ writeSingle indent false cs

def hexDigit (n : Nat) : Char := (Text.Hex.digit n).toUpper

def hexCode (digits n : Nat) : List Char :=
  (List.range digits).reverse.map fun i => hexDigit (n / twoTo (4 * i) % 16)

def escape (c : Char) : List Char :=
  let n := c.toNat
  if c = '"' ∨ c = '\\' then ['\\', c]
  else if isPrintable c && !isBreak c then [c]
  else match n with
    | 0x00 => ['\\', '0']
    | 0x07 => ['\\', 'a']
    | 0x08 => ['\\', 'b']
    | 0x09 => ['\\', 't']
    | 0x0a => ['\\', 'n']
    | 0x0b => ['\\', 'v']
    | 0x0c => ['\\', 'f']
    | 0x0d => ['\\', 'r']
    | 0x1b => ['\\', 'e']
    | 0x85 => ['\\', 'N']
    | 0x2028 => ['\\', 'L']
    | 0x2029 => ['\\', 'P']
    | _ =>
      if n ≤ 0xff then '\\' :: 'x' :: hexCode 2 n
      else if n ≤ 0xffff then '\\' :: 'u' :: hexCode 4 n
      else '\\' :: 'U' :: hexCode 8 n

def writeLines (indent : Nat) (broken : Bool) : List Char → List Char
  | [] => []
  | c :: cs =>
    if isBreak c then c :: writeLines indent true cs
    else (if broken then margin indent else []) ++ c :: writeLines indent false cs

/-- The header of a literal scalar: its width, where the first line does not show it, and what
becomes of the breaks at the end. -/
def header (cs : List Char) : List Char :=
  let width := match cs with
    | c :: _ => if c = ' ' ∨ isBreak c then ['2'] else []
    | [] => []
  let chomp := match cs.reverse with
    | c :: rest =>
      if !isBreak c then ['-']
      else match rest with
        | d :: _ => if isBreak d then ['+'] else []
        | [] => ['+']
    | [] => ['-']
  '|' :: width ++ chomp

def write (indent : Nat) (s : String) : List Char :=
  let cs := s.toList
  match ofText s with
  | .plain => cs
  | .single => '\'' :: writeSingle indent false cs
  | .double => '"' :: cs.flatMap escape ++ ['"']
  | .literal => header cs ++ '\n' :: writeLines indent true cs

end Style
end SqlGateway.Yaml
