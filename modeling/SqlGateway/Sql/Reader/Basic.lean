import SqlGateway.Sql.Failure
import SqlGateway.Sql.Token

namespace SqlGateway.Sql

structure Input where
  text : List Char
  tokens : List Token
  parameters : List (Option String) := []

abbrev Reader := StateT Input (Except Failure)

namespace Reader

def reserved : List String :=
  ["ADD", "ALL", "ALTER", "AND", "AS", "AUTOINCREMENT", "BETWEEN", "CASE", "CHECK", "COLLATE",
    "COMMIT", "CONSTRAINT", "CREATE", "DEFAULT", "DEFERRABLE", "DELETE", "DISTINCT", "DROP", "ELSE",
    "ESCAPE", "EXCEPT", "EXISTS", "FOREIGN", "FROM", "GROUP", "HAVING", "IN", "INDEX", "INSERT",
    "INTERSECT", "INTO", "IS", "ISNULL", "JOIN", "LIMIT", "NOT", "NOTHING", "NOTNULL", "NULL", "ON",
    "OR", "ORDER", "PRIMARY", "REFERENCES", "RETURNING", "SELECT", "SET", "TABLE", "THEN", "TO",
    "TRANSACTION", "UNION", "UNIQUE", "UPDATE", "USING", "VALUES", "WHEN", "WHERE"]

def joinWords : List String := ["CROSS", "FULL", "INNER", "LEFT", "NATURAL", "OUTER", "RIGHT"]

def upperText (t : Token) : String := String.ofList (t.text.map Text.upperAscii)

def isPlainName (t : Token) : Bool :=
  t.kind = .quotedName
    || (t.kind = .word && !reserved.contains (upperText t) && !joinWords.contains (upperText t))

def isColumnName (t : Token) : Bool :=
  t.kind = .quotedName || (t.kind = .word && !reserved.contains (upperText t))

def isName (t : Token) : Bool := isColumnName t || t.kind = .string

def peek : Reader Token := do return (← get).tokens.headD ⟨.finish, [], 0⟩

def peekSecond : Reader Token := do return (← get).tokens.getD 1 ⟨.finish, [], 0⟩

def skip : Reader Unit :=
  modify fun i => { i with tokens := match i.tokens with
    | t :: u :: rest => if t.kind = .finish then i.tokens else u :: rest
    | ts => ts }

def unexpected {α : Type} : Reader α := do
  let t ← peek
  throw (match t.kind with
    | .illegal => .unrecognized (String.ofList t.text)
    | .finish => .incomplete
    | _ => .near (String.ofList t.text))

def symbol? (s : String) : Reader Bool := do
  if (← peek).isSymbol s then skip; return true
  return false

def symbol (s : String) : Reader Unit := do unless ← symbol? s do unexpected

def keyword? (k : String) : Reader Bool := do
  if (← peek).isKeyword k then skip; return true
  return false

def keyword (k : String) : Reader Unit := do unless ← keyword? k do unexpected

def keywords (ks : List String) : Reader Unit := ks.forM keyword

def name : Reader String := do
  let t ← peek
  if isName t then skip; return t.content
  unexpected

def ifAbsent : Reader Bool := do
  if ← keyword? "IF" then keywords ["NOT", "EXISTS"]; return true
  return false

def ifPresent : Reader Bool := do
  if ← keyword? "IF" then keyword "EXISTS"; return true
  return false

def separated {α : Type} (item : Reader α) : Nat → Reader (List α)
  | 0 => throw .tooDeep
  | fuel + 1 => do
    let first ← item
    if ← symbol? "," then return first :: (← separated item fuel)
    return [first]

def budget : Reader Nat := do return (← get).tokens.length + 1

def list {α : Type} (item : Reader α) : Reader (List α) := do separated item (← budget)

def inParentheses {α : Type} (item : Reader α) : Reader α := do
  symbol "("
  let a ← item
  symbol ")"
  return a

def trimSpaces (cs : List Char) : List Char :=
  ((cs.dropWhile Token.isSpace).reverse.dropWhile Token.isSpace).reverse

/-- What a reader passes, as it was written up to the next token. -/
def withText {α : Type} (r : Reader α) : Reader (α × String) := do
  let first ← peek
  let a ← r
  let next ← peek
  let text := (← get).text
  return (a, String.ofList (trimSpaces ((text.drop first.start).take (next.start - first.start))))

def maxParameter : Nat := 32766

def nameParameter (n : Nat) (text : String) : Reader Unit :=
  modify fun i =>
    let known := i.parameters ++ List.replicate (n - i.parameters.length) none
    { i with parameters := known.modify (n - 1) fun old => old.or (some text) }

def newParameter (name : Option String) : Reader Nat := do
  let n := (← get).parameters.length + 1
  if maxParameter < n then throw .tooManyParameters
  modify fun i => { i with parameters := i.parameters ++ [name] }
  return n

def parameterNumber (t : Token) : Reader Nat :=
  match t.text with
  | ['?'] => newParameter none
  | '?' :: digits => do
    let n := Text.digitsFrom 0 digits
    if n = 0 ∨ maxParameter < n then throw .parameterNumber
    nameParameter n (String.ofList t.text)
    return n
  | _ => do
    let name := String.ofList t.text
    match (← get).parameters.findIdx? (· = some name) with
    | some i => return i + 1
    | none => newParameter (some name)

end Reader
end SqlGateway.Sql
