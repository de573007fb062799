import SqlGateway.Sql.Reader.Basic
import SqlGateway.Sql.Expr

namespace SqlGateway.Sql.Reader

/-- Binding strengths from loosest to tightest. -/
def notLevel : Nat := 3
def equalityLevel : Nat := 4
def unaryLevel : Nat := 10

def binaryOf (t : Token) : Option (Binary × Nat) :=
  if t.kind = .symbol then
    match String.ofList t.text with
    | "=" | "==" => some (.equal, 4)
    | "<>" | "!=" => some (.unequal, 4)
    | "<" => some (.less, 5)
    | "<=" => some (.lessEqual, 5)
    | ">" => some (.greater, 5)
    | ">=" => some (.greaterEqual, 5)
    | "&" => some (.bitAnd, 6)
    | "|" => some (.bitOr, 6)
    | "<<" => some (.shiftLeft, 6)
    | ">>" => some (.shiftRight, 6)
    | "+" => some (.add, 7)
    | "-" => some (.subtract, 7)
    | "*" => some (.multiply, 8)
    | "/" => some (.divide, 8)
    | "%" => some (.remainder, 8)
    | "||" => some (.concat, 9)
    | _ => none
  else if t.isKeyword "OR" then some (.or, 1)
  else if t.isKeyword "AND" then some (.and, 2)
  else none

def hexNumber (cs : List Char) : Nat :=
  cs.foldl (fun n c => 16 * n + (Text.Hex.digitValue? c).getD 0) 0

/-- The datum of a number: an integer that fits 64 bits, else the nearest double. Hexadecimal
digits are the bits of an integer. -/
def numberDatum (text : List Char) : Except Failure Datum :=
  match text with
  | '0' :: x :: digits =>
    if x = 'x' ∨ x = 'X' then
      if 16 < (digits.dropWhile (· = '0')).length then .error (.hexTooBig (String.ofList text))
      else .ok (.integer (UInt64.ofNat (hexNumber digits)).toInt64)
    else .ok (NumberText.read text).toDatum
  | _ => .ok (NumberText.read text).toDatum

def blobDatum (text : List Char) : Datum :=
  .blob ((Text.Hex.decode? ((text.drop 2).dropLast)).getD [])

def negated {ρ φ : Type} : Expr ρ φ → Expr ρ φ
  | .literal (.integer n) => .literal (.integer (-n))
  | .literal (.real x) => .literal (.real x.neg)
  | e => .unary .negate e

def between {ρ φ : Type} (e lo hi : Expr ρ φ) : Expr ρ φ :=
  .and (.binary .greaterEqual e lo) (.binary .lessEqual e hi)

def oneOf {ρ φ : Type} (e : Expr ρ φ) : List (Expr ρ φ) → Expr ρ φ
  | [] => .literal (.integer 0)
  | v :: vs => vs.foldl (fun found v => .binary .or found (.binary .equal e v)) (.binary .equal e v)

def columnName : Reader ColumnName := do
  let first ← peek
  skip
  if !(← symbol? ".") then
    return ⟨none, first.content, first.kind = .quotedName && first.text.head? = some '"'⟩
  let second ← name
  if !(← symbol? ".") then return ⟨some first.content, second, false⟩
  return ⟨some second, ← name, false⟩

mutual

/-- An expression whose operators bind at least as tightly as `level`. -/
def expressionFrom : Nat → Nat → Reader WrittenExpr
  | 0, _ => throw .tooDeep
  | fuel + 1, level => do
    let left ← operand fuel
    continueFrom fuel level left

def continueFrom : Nat → Nat → WrittenExpr → Reader WrittenExpr
  | 0, _, _ => throw .tooDeep
  | fuel + 1, level, left => do
    let t ← peek
    match binaryOf t with
    | some (op, strength) =>
      if strength < level then return left
      skip
      let right ← expressionFrom fuel (strength + 1)
      continueFrom fuel level (.binary op left right)
    | none =>
      if equalityLevel < level then return left
      if t.isKeyword "ISNULL" then
        skip
        continueFrom fuel level (.unary .isNull left)
      else if t.isKeyword "NOTNULL" then
        skip
        continueFrom fuel level (.not (.unary .isNull left))
      else if t.isKeyword "IS" then
        skip
        let inverted ← keyword? "NOT"
        let right ← expressionFrom fuel (equalityLevel + 1)
        let e := .binary .is left right
        continueFrom fuel level (if inverted then .not e else e)
      else if t.isKeyword "NOT" then
        skip
        if ← keyword? "NULL" then continueFrom fuel level (.not (.unary .isNull left))
        else
          let e ← range fuel left
          continueFrom fuel level (.not e)
      else if t.isKeyword "BETWEEN" || t.isKeyword "IN" then
        let e ← range fuel left
        continueFrom fuel level e
      else return left

def range : Nat → WrittenExpr → Reader WrittenExpr
  | 0, _ => throw .tooDeep
  | fuel + 1, left => do
    if ← keyword? "BETWEEN" then
      let lo ← expressionFrom fuel (equalityLevel + 1)
      keyword "AND"
      let hi ← expressionFrom fuel (equalityLevel + 1)
      return between left lo hi
    keyword "IN"
    symbol "("
    if ← symbol? ")" then return oneOf left []
    let vs ← expressions fuel
    symbol ")"
    return oneOf left vs

def operand : Nat → Reader WrittenExpr
  | 0 => throw .tooDeep
  | fuel + 1 => do
    let t ← peek
    match t.kind with
    | .integer | .real =>
      skip
      return .literal (← numberDatum t.text)
    | .string => skip; return .literal (.ofText t.content)
    | .blob => skip; return .literal (blobDatum t.text)
    | .parameter =>
      if t.text.head? = some '#' then unexpected
      let n ← parameterNumber t
      skip
      return .parameter n
    | .symbol =>
      if t.isSymbol "(" then
        skip
        let e ← expressionFrom fuel 0
        symbol ")"
        return e
      else if t.isSymbol "-" then
        skip
        let u ← peek
        if u.kind = .integer ∧ u.text = "9223372036854775808".toList then
          skip
          return .literal (.integer (Int64.ofInt int64Min))
        return negated (← expressionFrom fuel unaryLevel)
      else if t.isSymbol "+" then
        skip
        return .unary .plus (← expressionFrom fuel unaryLevel)
      else if t.isSymbol "~" then
        skip
        return .unary .complement (← expressionFrom fuel unaryLevel)
      else unexpected
    | _ =>
      if t.isKeyword "NULL" then
        skip
        return .literal .null
      else if t.isKeyword "NOT" then
        skip
        return .not (← expressionFrom fuel notLevel)
      else if isColumnName t then
        if (← peekSecond).isSymbol "(" then
          skip
          skip
          if ← symbol? "*" then
            symbol ")"
            return .call ⟨t.content, true⟩ []
          if ← symbol? ")" then return .call ⟨t.content, false⟩ []
          let args ← expressions fuel
          symbol ")"
          return .call ⟨t.content, false⟩ args
        return .ref (← columnName)
      else unexpected

def expressions : Nat → Reader (List WrittenExpr)
  | 0 => throw .tooDeep
  | fuel + 1 => do
    let first ← expressionFrom fuel 0
    if ← symbol? "," then return first :: (← expressions fuel)
    return [first]

end

/-- Each token opens at most four levels of reading. -/
def expression : Reader WrittenExpr := do expressionFrom (4 * (← budget)) 0

end SqlGateway.Sql.Reader
