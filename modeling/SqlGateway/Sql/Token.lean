import SqlGateway.Text.Hex
import SqlGateway.Text.Number

namespace SqlGateway.Sql

inductive TokenKind where
  | word
  | quotedName
  | string
  | integer
  | real
  | blob
  | parameter
  | symbol
  | illegal
  | blank
  | finish
deriving DecidableEq, Repr, Inhabited

structure Token where
  kind : TokenKind
  text : List Char
  start : Nat
deriving DecidableEq, Repr, Inhabited

namespace Token

def isSpace (c : Char) : Bool := c == ' ' || c == '\t' || c == '\n' || c == '\x0c' || c == '\r'

def isHexDigit (c : Char) : Bool := (Text.Hex.digitValue? c).isSome

def isNameStart (c : Char) : Bool :=
  ('a' ≤ c && c ≤ 'z') || ('A' ≤ c && c ≤ 'Z') || c == '_' || 0x80 ≤ c.toNat

def isNameChar (c : Char) : Bool := isNameStart c || Text.isDigit c || c == '$'

def countWhile (p : Char → Bool) (cs : List Char) : Nat := (cs.takeWhile p).length

/-- Characters of a quoted text behind its opening mark, and whether it is closed. A doubled mark
stands for one. -/
def quotedLength (mark : Char) : List Char → Nat × Bool
  | [] => (0, false)
  | c :: cs =>
    if c = mark then
      match cs with
      | d :: ds =>
        if d = mark then let (n, closed) := quotedLength mark ds; (n + 2, closed) else (1, true)
      | [] => (1, true)
    else let (n, closed) := quotedLength mark cs; (n + 1, closed)

def commentLength : List Char → Nat
  | [] => 0
  | '*' :: '/' :: _ => 2
  | _ :: cs => commentLength cs + 1

def exponentLength : List Char → Nat
  | e :: cs =>
    if e = 'e' ∨ e = 'E' then
      match cs with
      | s :: d :: _ =>
        if Text.isDigit s then countWhile Text.isDigit cs + 1
        else if (s = '+' ∨ s = '-') ∧ Text.isDigit d then countWhile Text.isDigit (cs.drop 1) + 2
        else 0
      | [d] => if Text.isDigit d then 2 else 0
      | [] => 0
    else 0
  | [] => 0

/-- Kind and length of the number that the text starts with. A name that follows at once spoils
it. -/
def number (cs : List Char) : TokenKind × Nat :=
  let hex := match cs with
    | '0' :: x :: d :: _ => (x == 'x' || x == 'X') && isHexDigit d
    | _ => false
  if hex then (.integer, 2 + countWhile isHexDigit (cs.drop 2))
  else
    let whole := countWhile Text.isDigit cs
    let rest := cs.drop whole
    let places := match rest with
      | '.' :: rest => countWhile Text.isDigit rest + 1
      | _ => 0
    let exponent := exponentLength (rest.drop places)
    let junk := countWhile isNameChar (rest.drop (places + exponent))
    (if 0 < junk then .illegal else if places + exponent = 0 then .integer else .real,
      whole + places + exponent + junk)

/-- Length of a parameter's name behind its first mark: name characters and pairs of colons, with a
last part in parentheses. -/
def parameterLength : List Char → Nat
  | ':' :: ':' :: cs => parameterLength cs + 2
  | c :: cs => if isNameChar c then parameterLength cs + 1 else 0
  | [] => 0

def blobLiteral (cs : List Char) : TokenKind × Nat :=
  let digits := countWhile isHexDigit cs
  match cs.drop digits with
  | '\'' :: _ => if digits % 2 = 0 then (.blob, digits + 1) else (.illegal, digits + 1)
  | rest =>
    let more := countWhile (· ≠ '\'') rest
    (.illegal, digits + more + (if (rest.drop more).isEmpty then 0 else 1))

/-- Kind of the token that starts with `c`, and how many of the characters after `c` belong to
it. -/
def scan (c : Char) (cs : List Char) : TokenKind × Nat :=
  let next := cs.headD '\x00'
  let quoted (kind : TokenKind) : TokenKind × Nat :=
    let (n, closed) := quotedLength c cs
    (if closed then kind else .illegal, n)
  if isSpace c then (.blank, countWhile isSpace cs)
  else if c = '\'' then quoted .string
  else if c = '"' ∨ c.toNat = 0x60 then quoted .quotedName
  else if c = '[' then
    let n := countWhile (· ≠ ']') cs
    if (cs.drop n).isEmpty then (.illegal, n) else (.quotedName, n + 1)
  else if (c = 'x' ∨ c = 'X') ∧ next = '\'' then
    let (kind, n) := blobLiteral (cs.drop 1)
    (kind, n + 1)
  else if isNameStart c then (.word, countWhile isNameChar cs)
  else if Text.isDigit c ∨ (c = '.' ∧ Text.isDigit next) then
    let (kind, n) := number (c :: cs)
    (kind, n - 1)
  else if c = '?' then (.parameter, countWhile Text.isDigit cs)
  else if c = ':' ∨ c = '@' ∨ c = '$' ∨ c = '#' then
    let n := parameterLength cs
    (if n = 0 then .illegal else .parameter, n)
  else if c = '-' ∧ next = '-' then (.blank, countWhile (· ≠ '\n') cs)
  else if c = '/' ∧ next = '*' ∧ 1 < cs.length then (.blank, commentLength (cs.drop 1) + 1)
  else if c = '!' then if next = '=' then (.symbol, 1) else (.illegal, 0)
  else if c = '-' ∧ next = '>' then (.symbol, if cs.drop 1 |>.head? |> (· = some '>') then 2 else 1)
  else if (c = '=' ∧ next = '=') ∨ (c = '<' ∧ (next = '=' ∨ next = '>' ∨ next = '<'))
      ∨ (c = '>' ∧ (next = '=' ∨ next = '>')) ∨ (c = '|' ∧ next = '|') then (.symbol, 1)
  else if
    ['+', '-', '*', '/', '%', '=', '<', '>', '|', '&', '~', '(', ')', ',', ';', '.'].contains c
    then (.symbol, 0)
  else (.illegal, 0)

def readFrom (start : Nat) : List Char → List Token
  | [] => [⟨.finish, [], start⟩]
  | c :: cs =>
    let (kind, n) := scan c cs
    let rest := readFrom (start + n + 1) (cs.drop n)
    if kind = .blank then rest else ⟨kind, c :: cs.take n, start⟩ :: rest
termination_by cs => cs.length
decreasing_by simp only [List.length_drop, List.length_cons]; omega

def read (text : List Char) : List Token := readFrom 0 text

def isSymbol (t : Token) (s : String) : Bool := t.kind = .symbol && t.text == s.toList

def isKeyword (t : Token) (keyword : String) : Bool :=
  t.kind = .word && t.text.map Text.upperAscii == keyword.toList

def unquote : List Char → List Char
  | [] => []
  | mark :: cs => strip (if mark = '[' then ']' else mark) cs
where
  strip (mark : Char) : List Char → List Char
    | [] => []
    | [c] => if c = mark then [] else [c]
    | c :: d :: cs =>
      if c = mark then if d = mark then c :: strip mark cs else [] else c :: strip mark (d :: cs)

def content (t : Token) : String :=
  String.ofList (match t.kind with
    | .quotedName | .string => unquote t.text
    | _ => t.text)

end Token
end SqlGateway.Sql
