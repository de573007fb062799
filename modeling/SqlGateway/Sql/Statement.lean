import SqlGateway.Sql.Expr
import SqlGateway.Sql.Failure

namespace SqlGateway.Sql

structure TableName where
  schema : Option String := none
  name : String
deriving DecidableEq, Repr, Inhabited

def TableName.text (t : TableName) : String :=
  match t.schema with
  | some schema => schema ++ "." ++ t.name
  | none => t.name

inductive ResultItem where
  | all
  | allOf (table : String)
  | item (e : WrittenExpr) (label : Option String) (text : String)

structure OrderTerm where
  key : WrittenExpr
  descending : Bool

structure Join where
  outer : Bool := false
  condition : Option WrittenExpr := none

mutual

inductive Query where
  | values (rows : List (List WrittenExpr))
  | select (distinct : Bool) (items : List ResultItem) (sources : List Source)
      (condition : Option WrittenExpr) (order : List OrderTerm) (limit offset : Option WrittenExpr)

inductive Source where
  | table (name : TableName) (label : Option String) (join : Join)
  | query (q : Query) (label : Option String) (join : Join)

end

instance : Inhabited Query := ⟨.values []⟩

inductive Conflict where
  | abort
  | ignore
  | replace
deriving DecidableEq, Repr

inductive InsertSource where
  | rows (q : Query)
  | defaults

structure Insert where
  conflict : Conflict
  table : TableName
  columns : List String
  source : InsertSource
  returning : List ResultItem

structure Update where
  conflict : Conflict
  table : TableName
  assignments : List (String × WrittenExpr)
  condition : Option WrittenExpr
  returning : List ResultItem

structure Delete where
  table : TableName
  condition : Option WrittenExpr
  returning : List ResultItem

inductive ColumnConstraint where
  | primaryKey (descending autoincrement : Bool)
  | notNull
  | unique
  | check (e : WrittenExpr) (text : String)
  | default (e : WrittenExpr)
  /-- A constraint that is read and not enforced. -/
  | unenforced

structure ColumnDefinition where
  name : String
  declared : Option String
  constraints : List (Option String × ColumnConstraint)

inductive TableConstraint where
  | primaryKey (columns : List String)
  | unique (columns : List String)
  | check (e : WrittenExpr) (text : String)

structure CreateTable where
  name : TableName
  ifAbsent : Bool
  columns : List ColumnDefinition
  constraints : List (Option String × TableConstraint)

structure CreateIndex where
  name : TableName
  ifAbsent : Bool
  unique : Bool
  table : String
  columns : List String

structure CreateView where
  name : TableName
  ifAbsent : Bool
  columns : Option (List String)
  query : Query

inductive BeginMode where
  | deferred
  | immediate
  | exclusive
deriving DecidableEq, Repr

inductive Statement where
  | query (q : Query)
  | insert (s : Insert)
  | update (s : Update)
  | delete (s : Delete)
  | createTable (s : CreateTable)
  | createIndex (s : CreateIndex)
  | createView (s : CreateView)
  | addColumn (table : TableName) (column : ColumnDefinition)
  | drop (kind : ObjectKind) (ifPresent : Bool) (name : TableName)
  | begin (mode : BeginMode)
  | commit
  | rollback
  | savepoint (name : String)
  | release (name : String)
  | rollbackTo (name : String)

instance : Inhabited Statement := ⟨.commit⟩

end SqlGateway.Sql
