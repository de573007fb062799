import SqlGateway.Sql.Reader.Expr
import SqlGateway.Sql.Statement

namespace SqlGateway.Sql.Reader

def label? : Reader (Option String) := do
  if ← keyword? "AS" then return some (← name)
  let t ← peek
  if isPlainName t ∨ t.kind = .string then
    skip
    return some t.content
  return none

def resultItem : Reader ResultItem := do
  let t ← peek
  if ← symbol? "*" then return .all
  if isName t && (← peekSecond).isSymbol "." then
    let saved ← get
    skip
    skip
    if ← symbol? "*" then return .allOf t.content
    set saved
  let (e, text) ← withText expression
  return .item e (← label?) text

def orderTerm : Reader OrderTerm := do
  let key ← expression
  if ← keyword? "DESC" then return ⟨key, true⟩
  let _ ← keyword? "ASC"
  return ⟨key, false⟩

def joinWord? : Reader (Option Join) := do
  if ← symbol? "," then return some {}
  if ← keyword? "JOIN" then return some {}
  if ← keyword? "LEFT" then
    let _ ← keyword? "OUTER"
    keyword "JOIN"
    return some { outer := true }
  if ← keyword? "INNER" then keyword "JOIN"; return some {}
  if ← keyword? "CROSS" then keyword "JOIN"; return some {}
  return none

def joinCondition (j : Join) : Reader Join := do
  if ← keyword? "ON" then return { j with condition := some (← expression) }
  return j

def tableName : Reader TableName := do
  let first ← name
  if ← symbol? "." then return ⟨some first, ← name⟩
  return ⟨none, first⟩

def condition? : Reader (Option WrittenExpr) := do
  if ← keyword? "WHERE" then return some (← expression)
  return none

def limits : Reader (Option WrittenExpr × Option WrittenExpr) := do
  if !(← keyword? "LIMIT") then return (none, none)
  let first ← expression
  if ← keyword? "OFFSET" then return (some first, some (← expression))
  if ← symbol? "," then return (some (← expression), some first)
  return (some first, none)

def valuesRows : Reader (List (List WrittenExpr)) := list (inParentheses (list expression))

mutual

def queryFrom : Nat → Reader Query
  | 0 => throw .tooDeep
  | fuel + 1 => do
    if ← keyword? "VALUES" then return .values (← valuesRows)
    keyword "SELECT"
    let distinct ← keyword? "DISTINCT"
    unless distinct do let _ ← keyword? "ALL"
    let items ← list resultItem
    let sources ← if ← keyword? "FROM" then sourcesFrom fuel {} else pure []
    let condition ← condition?
    let order ← if ← keyword? "ORDER" then keyword "BY"; list orderTerm else pure []
    let (limit, offset) ← limits
    return .select distinct items sources condition order limit offset

def sourcesFrom : Nat → Join → Reader (List Source)
  | 0, _ => throw .tooDeep
  | fuel + 1, join => do
    let source ← if ← symbol? "(" then do
        let q ← queryFrom fuel
        symbol ")"
        let label ← label?
        pure (Source.query q label (← joinCondition join))
      else do
        let table ← tableName
        let label ← label?
        pure (Source.table table label (← joinCondition join))
    match ← joinWord? with
    | some next => return source :: (← sourcesFrom fuel next)
    | none => return [source]

end

def query : Reader Query := do queryFrom (← budget)

end SqlGateway.Sql.Reader
