import SqlGateway.Sql.Statement

namespace SqlGateway.Sql

def sameName (a b : String) : Bool := Text.lowerText a == Text.lowerText b

structure ColumnRule where
  name : String
  declared : Option String := none
  notNull : Bool := false
  default : Option WrittenExpr := none

def ColumnRule.affinity (c : ColumnRule) : Affinity := .ofDeclared c.declared

/-- Columns whose values together occur in one row only, unless one of them is null. -/
structure Key where
  columns : List Nat
  primary : Bool := false
  index : Option String := none
deriving DecidableEq, Repr

structure Check where
  text : String
  condition : WrittenExpr

abbrev Cells := List Datum

structure Table where
  name : String
  columns : List ColumnRule
  rowidColumn : Option Nat := none
  keys : List Key := []
  checks : List Check := []
  /-- Row numbers never come back. -/
  autoincrement : Bool := false
  greatest : Int := 0
  rows : List (Int × Cells) := []

structure View where
  name : String
  columns : Option (List String)
  query : Query

structure Index where
  name : String
  table : String
  columns : List Nat
  unique : Bool

structure Content where
  tables : List Table := []
  views : List View := []
  indexes : List Index := []

namespace Table

def columnIndex? (t : Table) (name : String) : Option Nat :=
  t.columns.findIdx? fun c => sameName c.name name

def columnName (t : Table) (i : Nat) : String := ((t.columns[i]?).map (·.name)).getD "rowid"

def qualified (t : Table) (i : Nat) : String := t.name ++ "." ++ t.columnName i

def row? (t : Table) (rowid : Int) : Option Cells := t.rows.lookup rowid

def put (t : Table) (rowid : Int) (cells : Cells) : Table :=
  { t with
    greatest := max t.greatest rowid
    rows := t.rows.takeWhile (·.1 < rowid) ++ (rowid, cells) ::
      (t.rows.dropWhile (·.1 < rowid)).dropWhile (·.1 = rowid) }

def erase (t : Table) (rowid : Int) : Table := { t with rows := t.rows.filter (·.1 ≠ rowid) }

def nextRowid (t : Table) : Int :=
  let last := match t.rows.getLast? with
    | some (rowid, _) => rowid
    | none => 0
  (if t.autoincrement then max last t.greatest else last) + 1

def visible (rowid : Int) (cells : Cells) : Cells := cells ++ [.integer (Int64.ofInt rowid)]

end Table

namespace Content

def table? (c : Content) (name : String) : Option Table := c.tables.find? (sameName ·.name name)

def view? (c : Content) (name : String) : Option View := c.views.find? (sameName ·.name name)

def index? (c : Content) (name : String) : Option Index := c.indexes.find? (sameName ·.name name)

def setTable (c : Content) (t : Table) : Content :=
  { c with tables := c.tables.map fun old => if sameName old.name t.name then t else old }

end Content

/-- The one schema of a database; a table of any other is not there. -/
def TableName.known (t : TableName) : Bool :=
  match t.schema with
  | some schema => sameName schema "main"
  | none => true

def TableName.missing (t : TableName) : Failure := .noSuch .table t.text

end SqlGateway.Sql
