import SqlGateway.Sql.Reader.Query

namespace SqlGateway.Sql.Reader

def returning : Reader (List ResultItem) := do
  if ← keyword? "RETURNING" then list resultItem else return []

def conflict : Reader Conflict := do
  if !(← keyword? "OR") then return .abort
  if ← keyword? "IGNORE" then return .ignore
  if ← keyword? "REPLACE" then return .replace
  keyword "ABORT"
  return .abort

def columnList? : Reader (List String) := do
  if (← peek).isSymbol "(" then inParentheses (list name) else return []

def insertInto (conflict : Conflict) : Reader Insert := do
  keyword "INTO"
  let table ← tableName
  if ← keyword? "AS" then let _ ← name
  let columns ← columnList?
  let source ← if ← keyword? "DEFAULT" then do keyword "VALUES"; pure InsertSource.defaults
    else pure (.rows (← query))
  return ⟨conflict, table, columns, source, ← returning⟩

def assignment : Reader (String × WrittenExpr) := do
  let column ← name
  symbol "="
  return (column, ← expression)

def update : Reader Update := do
  let conflict ← conflict
  let table ← tableName
  keyword "SET"
  let assignments ← list assignment
  let condition ← condition?
  return ⟨conflict, table, assignments, condition, ← returning⟩

def delete : Reader Delete := do
  keyword "FROM"
  let table ← tableName
  let condition ← condition?
  return ⟨table, condition, ← returning⟩

def signedNumber : Reader Unit := do
  if !(← symbol? "-") then let _ ← symbol? "+"
  let t ← peek
  if t.kind = .integer ∨ t.kind = .real then skip else unexpected

def typeWords : Nat → Reader Unit
  | 0 => throw .tooDeep
  | fuel + 1 => do
    let t ← peek
    if isPlainName t ∨ t.kind = .string then
      skip
      typeWords fuel

def declaredType : Reader (Option String) := do
  let t ← peek
  if !(isPlainName t || t.kind = .string) then return none
  let words := do
    typeWords (← budget)
    if ← symbol? "(" then
      signedNumber
      if ← symbol? "," then signedNumber
      symbol ")"
  return some (← withText words).2

def checkCondition : Reader (WrittenExpr × String) := inParentheses (withText expression)

def defaultValue : Reader WrittenExpr := do
  let t ← peek
  if t.isSymbol "(" then inParentheses expression
  else if t.isSymbol "-" || t.isSymbol "+" then expressionFrom (4 * (← budget)) unaryLevel
  else if t.kind = .word && !t.isKeyword "NULL" && isColumnName t then
    skip
    if t.isKeyword "TRUE" then return .literal (.integer 1)
    if t.isKeyword "FALSE" then return .literal (.integer 0)
    return .literal (.ofText t.content)
  else operand (4 * (← budget))

def columnConstraint? : Reader (Option ColumnConstraint) := do
  if ← keyword? "PRIMARY" then
    keyword "KEY"
    let descending ← keyword? "DESC"
    unless descending do let _ ← keyword? "ASC"
    return some (.primaryKey descending (← keyword? "AUTOINCREMENT"))
  if ← keyword? "NOT" then keyword "NULL"; return some .notNull
  if ← keyword? "NULL" then return some .unenforced
  if ← keyword? "UNIQUE" then return some .unique
  if ← keyword? "CHECK" then
    let (e, text) ← checkCondition
    return some (.check e text)
  if ← keyword? "DEFAULT" then return some (.default (← defaultValue))
  if ← keyword? "REFERENCES" then
    let _ ← name
    let _ ← columnList?
    return some .unenforced
  return none

def columnConstraints : Nat → Reader (List (Option String × ColumnConstraint))
  | 0 => throw .tooDeep
  | fuel + 1 => do
    let given ← if ← keyword? "CONSTRAINT" then some <$> name else pure none
    match ← columnConstraint? with
    | some c => return (given, c) :: (← columnConstraints fuel)
    | none => if given.isSome then columnConstraints fuel else return []

def columnDefinition : Reader ColumnDefinition := do
  let column ← name
  let declared ← declaredType
  return ⟨column, declared, ← columnConstraints (← budget)⟩

def keyColumn : Reader String := do
  let column ← name
  if !(← keyword? "ASC") then let _ ← keyword? "DESC"
  return column

def tableConstraint? : Reader (Option TableConstraint) := do
  if ← keyword? "PRIMARY" then
    keyword "KEY"
    return some (.primaryKey (← inParentheses (list keyColumn)))
  if ← keyword? "UNIQUE" then return some (.unique (← inParentheses (list keyColumn)))
  if ← keyword? "CHECK" then
    let (e, text) ← checkCondition
    return some (.check e text)
  return none

def tableBody : Nat → Bool →
    Reader (List ColumnDefinition × List (Option String × TableConstraint))
  | 0, _ => throw .tooDeep
  | fuel + 1, first => do
    let given ← if !first && (← keyword? "CONSTRAINT") then some <$> name else pure none
    let constraint ← if first then pure none else tableConstraint?
    let (columns, constraints) ← match constraint with
      | some c => pure ([], [(given, c)])
      | none => do pure ([← columnDefinition], [])
    if ← symbol? "," then
      let (moreColumns, moreConstraints) ← tableBody fuel false
      return (columns ++ moreColumns, constraints ++ moreConstraints)
    symbol ")"
    return (columns, constraints)

def createTable : Reader CreateTable := do
  let ifAbsent ← ifAbsent
  let table ← tableName
  symbol "("
  let (columns, constraints) ← tableBody (← budget) true
  return ⟨table, ifAbsent, columns, constraints⟩

def createIndex (unique : Bool) : Reader CreateIndex := do
  let ifAbsent ← ifAbsent
  let index ← tableName
  keyword "ON"
  let table ← name
  return ⟨index, ifAbsent, unique, table, ← inParentheses (list keyColumn)⟩

def createView : Reader CreateView := do
  let ifAbsent ← ifAbsent
  let view ← tableName
  let columns ← if (← peek).isSymbol "(" then some <$> inParentheses (list name) else pure none
  keyword "AS"
  return ⟨view, ifAbsent, columns, ← query⟩

def create : Reader Statement := do
  if ← keyword? "UNIQUE" then keyword "INDEX"; return .createIndex (← createIndex true)
  if ← keyword? "INDEX" then return .createIndex (← createIndex false)
  if !(← keyword? "TEMP") then let _ ← keyword? "TEMPORARY"
  if ← keyword? "VIEW" then return .createView (← createView)
  keyword "TABLE"
  return .createTable (← createTable)

def drop (kind : ObjectKind) : Reader Statement := do
  let ifPresent ← ifPresent
  return .drop kind ifPresent (← tableName)

def transactionWords : Reader Unit := do
  if ← keyword? "TRANSACTION" then
    if isName (← peek) then skip

def begin : Reader BeginMode := do
  let mode ← if ← keyword? "IMMEDIATE" then pure BeginMode.immediate
    else if ← keyword? "EXCLUSIVE" then pure .exclusive
    else do
      let _ ← keyword? "DEFERRED"
      pure .deferred
  transactionWords
  return mode

def rollback : Reader Statement := do
  transactionWords
  if ← keyword? "TO" then
    let _ ← keyword? "SAVEPOINT"
    return .rollbackTo (← name)
  return .rollback

def statement : Reader Statement := do
  let t ← peek
  if t.isKeyword "SELECT" || t.isKeyword "VALUES" then return .query (← query)
  if ← keyword? "INSERT" then return .insert (← insertInto (← conflict))
  if ← keyword? "REPLACE" then return .insert (← insertInto .replace)
  if ← keyword? "UPDATE" then return .update (← update)
  if ← keyword? "DELETE" then return .delete (← delete)
  if ← keyword? "CREATE" then return ← create
  if ← keyword? "ALTER" then
    keyword "TABLE"
    let table ← tableName
    keyword "ADD"
    let _ ← keyword? "COLUMN"
    return .addColumn table (← columnDefinition)
  if ← keyword? "DROP" then
    if ← keyword? "TABLE" then return ← drop .table
    if ← keyword? "VIEW" then return ← drop .view
    keyword "INDEX"
    return ← drop .index
  if ← keyword? "BEGIN" then return .begin (← begin)
  if ← keyword? "COMMIT" then transactionWords; return .commit
  if ← keyword? "END" then transactionWords; return .commit
  if ← keyword? "ROLLBACK" then return ← rollback
  if ← keyword? "SAVEPOINT" then return .savepoint (← name)
  if ← keyword? "RELEASE" then
    let _ ← keyword? "SAVEPOINT"
    return .release (← name)
  unexpected

def closedStatement : Reader Statement := do
  let s ← statement
  if (← peek).kind = .finish then return s
  symbol ";"
  return s

end Reader

structure Written where
  statement : Statement
  parameters : List (Option String)

/-- The first statement of a text and the text behind it. Semicolons in front of it are passed over;
there may be nothing else. -/
def readStatement (text : List Char) : Except Failure (Option Written) × List Char :=
  let tokens := (Token.read text).dropWhile (·.isSymbol ";")
  if tokens.all (·.kind = .finish) then (.ok none, [])
  else
    match Reader.closedStatement.run ⟨text, tokens, []⟩ with
    | .error f => (.error f, [])
    | .ok (s, i) =>
      let rest := match i.tokens.head? with
        | some t => if t.kind = .finish then [] else text.drop t.start
        | none => []
      (.ok (some ⟨s, i.parameters⟩), rest)

end SqlGateway.Sql
