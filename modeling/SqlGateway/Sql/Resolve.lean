import SqlGateway.Sql.Plan

namespace SqlGateway.Sql

structure ScopeSource where
  name : String
  fields : List Field
  rowid : Option Field := none

structure Scope where
  sources : List ScopeSource := []
  aliases : List (String × BoundExpr) := []

/-- Resolution of an expression, with the last fault that does not end it. -/
abbrev Resolver := StateT (Option Failure) (Except Failure)

def Resolver.finish {α : Type} (r : Resolver α) : Except Failure α := do
  let (a, fault) ← r.run none
  match fault with
  | some failure => throw failure
  | none => return a

namespace Scope

def isRowidName (name : String) : Bool :=
  sameName name "rowid" || sameName name "_rowid_" || sameName name "oid"

def slots (s : Scope) (c : ColumnName) : List Slot :=
  s.sources.zipIdx.flatMap fun (source, i) =>
    if c.table.all (sameName source.name) then
      ((source.fields.zipIdx).find? fun (f, _) => sameName f.name c.name).toList.map
        fun (f, j) => ⟨i, j, f.affinity.getD .blob⟩
    else []

def rowidSlot? (s : Scope) (c : ColumnName) : Option Slot :=
  match s.sources.zipIdx.filter fun (source, _) => c.table.all (sameName source.name) with
  | [(source, i)] =>
    if isRowidName c.name ∧ source.rowid.isSome then some ⟨i, source.fields.length, .integer⟩
    else none
  | _ => none

/-- A column, the row number, another name of a result, a text in double quotes or a truth value, in
this order. -/
def column (s : Scope) (c : ColumnName) : Except Failure BoundExpr :=
  match s.slots c with
  | [slot] => .ok (.ref slot)
  | _ :: _ :: _ => .error (.ambiguous c.text)
  | [] =>
    match s.rowidSlot? c with
    | some slot => .ok (.ref slot)
    | none =>
      let named := s.aliases.find? fun (name, _) => c.table.isNone && sameName name c.name
      match named with
      | some (_, e) => .ok e
      | none =>
        if c.table.isSome then .error (.noSuch .column c.text)
        else if c.quoted then .ok (.literal (.ofText c.name))
        else if sameName c.name "true" then .ok (.literal (.integer 1))
        else if sameName c.name "false" then .ok (.literal (.integer 0))
        else .error (.noSuch .column c.text)

def field? (s : Scope) (slot : Slot) : Option Field :=
  (s.sources[slot.source]?).bind fun source =>
    if slot.column < source.fields.length then source.fields[slot.column]? else source.rowid

end Scope

def function? (name : String) : Option (Function × (Nat → Bool)) :=
  [("abs", Function.abs, fun n => n == 1), ("length", .length, fun n => n == 1),
    ("typeof", .typeof, fun n => n == 1), ("char", .char, fun _ => true),
    ("count", .count, fun n => n ≤ 1)].lookup (Text.lowerText name)

def resolveFunction (aggregates : Bool) (f : FunctionName) (arguments : Nat) :
    Resolver Function := do
  match function? f.name with
  | none => set (some (Failure.noSuch .function f.name)); return .count
  | some (function, takes) =>
    if !takes arguments then set (some (Failure.argumentCount f.name))
    else if function = .count ∧ !aggregates then set (some (Failure.misplacedAggregate f.name))
    return function

mutual

def resolveExpr (s : Scope) (aggregates : Bool) : WrittenExpr → Resolver BoundExpr
  | .literal d => return .literal d
  | .parameter n => return .parameter n
  | .ref c => s.column c
  | .unary op e => do return .unary op (← resolveExpr s aggregates e)
  | .binary op a b => do
    let a ← resolveExpr s aggregates a
    return .binary op a (← resolveExpr s aggregates b)
  | .call f args => do
    let function ← resolveFunction aggregates f args.length
    return .call function (← resolveExprs s (aggregates && function != .count) args)

def resolveExprs (s : Scope) (aggregates : Bool) : List WrittenExpr → Resolver (List BoundExpr)
  | [] => return []
  | e :: es => do
    let e ← resolveExpr s aggregates e
    return e :: (← resolveExprs s aggregates es)

end

def resolve (s : Scope) (aggregates : Bool) (e : WrittenExpr) : Except Failure BoundExpr :=
  (resolveExpr s aggregates e).finish

def resolve? (s : Scope) (aggregates : Bool) :
    Option WrittenExpr → Except Failure (Option BoundExpr)
  | none => .ok none
  | some e => (resolve s aggregates e).map some

/-- The result column of an expression: named as told, else by the column that it is, else by its
text. -/
def resultField (s : Scope) (e : BoundExpr) (label : Option String) (text : String) : Field :=
  match e with
  | .ref slot =>
    match s.field? slot with
    | some f => { f with name := label.getD f.name, affinity := some slot.affinity }
    | none => { name := label.getD text }
  | _ => { name := label.getD text }

def allColumns (sources : List (ScopeSource × Nat)) : List (Field × BoundExpr) :=
  sources.flatMap fun (source, i) =>
    source.fields.zipIdx.map fun (f, j) => (f, .ref ⟨i, j, f.affinity.getD .blob⟩)

def resolveItem (s : Scope) (aggregates : Bool) :
    ResultItem → Except Failure (List (Field × BoundExpr))
  | .all => if s.sources.isEmpty then .error .nothingToExpand else .ok (allColumns s.sources.zipIdx)
  | .allOf table =>
    match s.sources.zipIdx.filter fun (source, _) => sameName source.name table with
    | [] => .error (.noSuch .table table)
    | sources => .ok (allColumns sources)
  | .item e label text => do
    let e ← resolve s aggregates e
    return [(resultField s e label text, e)]

def resolveItems (s : Scope) (aggregates : Bool) (items : List ResultItem) :
    Except Failure (List (Field × BoundExpr)) :=
  return (← items.mapM (resolveItem s aggregates)).flatten

def labelsOf : List ResultItem → List (Field × BoundExpr) → List (String × BoundExpr)
  | .item _ (some label) _ :: items, (_, e) :: fields => (label, e) :: labelsOf items fields
  | .item _ none _ :: items, _ :: fields => labelsOf items fields
  | _, _ => []

/-- The sort key of a term: the result at a position, the result of that name, or an expression of
its own. -/
def resolveOrder (s : Scope) (aggregates : Bool) (results : List (Field × BoundExpr)) (index : Nat)
    (t : OrderTerm) : Except Failure OrderKey := do
  let key ← match t.key with
    | .literal (.integer n) =>
      match if n < 1 then none else results[n.toInt.toNat - 1]? with
      | some (_, e) => pure e
      | none => throw (.orderTerm (index + 1) results.length)
    | .ref c =>
      match s.aliases.find? fun (name, _) => c.table.isNone && sameName name c.name with
      | some (_, e) => pure e
      | none => resolve s aggregates t.key
    | e => resolve s aggregates e
  return ⟨key, t.descending⟩

def uniqueNames : List String → List Field → List Field
  | _, [] => []
  | seen, f :: fs =>
    let clash (name : String) : Bool := seen.any (sameName name)
    let name := if clash f.name then
        (((List.range seen.length).map fun i => f.name ++ ":" ++ toString (i + 1)).find?
          fun name => !clash name).getD f.name
      else f.name
    { f with name } :: uniqueNames (name :: seen) fs

def tableScope (t : Table) (name : String) : ScopeSource where
  name := name
  fields := t.columns.map fun c => ⟨c.name, c.declared, some c.affinity, c.name, t.name⟩
  rowid :=
    let shown := match t.rowidColumn with
      | some i => t.columnName i
      | none => "rowid"
    some ⟨shown, some "INTEGER", some .integer, shown, t.name⟩

/-- The direction of a scan by row number that gives the order by itself. -/
def rowidOrder? (scope : Scope) (tables : List (Option Table)) (order : List OrderKey) :
    Option Bool :=
  match tables, (order.dropWhile (·.key.isLiteral)).head? with
  | [some t], some ⟨.ref slot, descending⟩ =>
    let fields := ((scope.sources.head?).map (·.fields.length)).getD 0
    if slot.column = fields ∨ t.rowidColumn = some slot.column then some descending else none
  | _, _ => none

def SourcePlan.reversed (backwards : Bool) : SourcePlan → SourcePlan
  | .table name _ join => .table name backwards join
  | s => s

structure ResolvedQuery where
  fields : List Field
  plan : QueryPlan

/-- A source once its rows are known: the plan still lacks the condition of its join, which can name
all sources. -/
structure ResolvedSource where
  scope : ScopeSource
  table : Option Table
  query : Option QueryPlan
  join : Join

def ResolvedSource.plan (r : ResolvedSource) (join : Option OuterJoin) : SourcePlan :=
  match r.table, r.query with
  | some t, _ => .table t.name false join
  | none, some q => .derived q join
  | none, none => .derived (.values []) join

def resolveSource (scope : Scope) (r : ResolvedSource) :
    Except Failure (SourcePlan × Option BoundExpr) := do
  let condition ← resolve? scope false r.join.condition
  if r.join.outer then return (r.plan (some ⟨condition⟩), none)
  return (r.plan none, condition)

def resolveSelect (resolved : List ResolvedSource) (distinct : Bool) (items : List ResultItem)
    (condition : Option WrittenExpr) (order : List OrderTerm) (limit offset : Option WrittenExpr) :
    Except Failure ResolvedQuery := do
  let scope : Scope := ⟨resolved.map (·.scope), []⟩
  let limit ← resolve? {} false limit
  let offset ← resolve? {} false offset
  let results ← resolveItems scope true items
  let scope := { scope with aliases := labelsOf items results }
  let sources ← resolved.mapM (resolveSource scope)
  let condition ← resolve? scope false condition
  let order ← order.zipIdx.mapM fun (t, i) => resolveOrder scope true results i t
  let aggregate := results.any (Expr.countsRows ·.2) || order.any (Expr.countsRows ·.key)
  let scan := if distinct || aggregate then none
    else rowidOrder? scope (resolved.map (·.table)) order
  let plans := match scan with
    | some backwards => (sources.map (·.1)).map (SourcePlan.reversed backwards)
    | none => sources.map (·.1)
  return ⟨results.map (·.1), .select ⟨plans,
    Expr.conjunction (sources.filterMap (·.2) ++ condition.toList), results.map (·.2), distinct,
    aggregate, if scan.isSome || aggregate then [] else order, limit, offset⟩⟩

def resolveValues (rows : List (List WrittenExpr)) : Except Failure ResolvedQuery := do
  let width := (rows.headD []).length
  if rows.any (·.length ≠ width) then throw .unequalRows
  let rows ← rows.mapM fun row => row.mapM (resolve {} false)
  return ⟨(List.range width).map fun i => { name := "column" ++ toString (i + 1) }, .values rows⟩

def maxDepth : Nat := 100

mutual

def resolveQuery (c : Content) : Nat → Query → Except Failure ResolvedQuery
  | 0, _ => .error .tooDeep
  | _ + 1, .values rows => resolveValues rows
  | depth + 1, .select distinct items sources condition order limit offset => do
    resolveSelect (← resolveSources c depth sources) distinct items condition order limit offset

def resolveSources (c : Content) : Nat → List Source → Except Failure (List ResolvedSource)
  | 0, _ => .error .tooDeep
  | _ + 1, [] => .ok []
  | depth + 1, .table name label join :: rest => do
    if !name.known then throw name.missing
    let shown := label.getD name.name
    let first : ResolvedSource ← match c.table? name.name, c.view? name.name with
      | some t, _ => pure ⟨tableScope t shown, some t, none, join⟩
      | none, some v => do
        let q ← resolveQuery c depth v.query
        let fields := match v.columns with
          | some names => (q.fields.zip names).map fun (f, name) => { f with name }
          | none => q.fields
        pure ⟨⟨shown, uniqueNames [] fields, none⟩, none, some q.plan, join⟩
      | none, none => throw name.missing
    return first :: (← resolveSources c depth rest)
  | depth + 1, .query q label join :: rest => do
    let q ← resolveQuery c depth q
    let first : ResolvedSource :=
      ⟨⟨label.getD "", uniqueNames [] q.fields, none⟩, none, some q.plan, join⟩
    return first :: (← resolveSources c depth rest)

end

end SqlGateway.Sql
