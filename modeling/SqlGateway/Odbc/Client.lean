import SqlGateway.Odbc.Cell
import SqlGateway.Odbc.DataType
import SqlGateway.Remote.Statement

namespace SqlGateway.Odbc

structure Diagnostic where
  state : String
  native : Int
  message : String
deriving DecidableEq, Repr

def Diagnostic.text (d : Diagnostic) : String :=
  "State: " ++ d.state ++ ", Native error: " ++ toString d.native ++ ", Message: " ++ d.message

def failed (stage : Stage) (d : Diagnostic) : Error := .native stage (toString d.native) d.text

inductive Fault where
  | diagnostic (d : Diagnostic)
  | other (message : String)

def Fault.at (stage : Stage) (fallback : String) : Fault → Error
  | diagnostic d => failed stage d
  | other message => .native stage fallback message

inductive FetchFault where
  | fault (f : Fault)
  /-- A cell of the column does not fit into its buffer. Not every driver tells the size. -/
  | tooLarge (size : Option Nat) (column : Nat)

def maxCell : Nat := 65536

def FetchFault.error : FetchFault → Error
  | fault f => f.at .fetch "HY000"
  | tooLarge size column =>
    let octets := match size with
      | some n => toString n
      | none => "unknown"
    .native .fetch "01004" ("value of column " ++ toString (column + 1) ++ " (" ++ octets
      ++ " bytes) exceeds the " ++ toString maxCell ++ " byte cell limit")

abbrev Block := List (List Cell)

def blockRows : Nat := 256

/-- The cells of one column. A row that ends before it has nothing there. -/
def Block.column (block : Block) (column : Nat) : List Cell :=
  block.map fun row => (row[column]?).join

/-- The buffer of a column has a slot for each row of a block. -/
structure ColumnBuffer where
  limit : Nat
  slots : List Cell
  sized : slots.length = blockRows

namespace ColumnBuffer

def empty (limit : Nat) : ColumnBuffer where
  limit
  slots := List.replicate blockRows none
  sized := List.length_replicate

/-- Writes to the first slots, cutting off what a slot does not hold. The others keep what an
earlier block left there. -/
def write (b : ColumnBuffer) (cells : List Cell) : ColumnBuffer where
  limit := b.limit
  slots := (cells.map (·.map (·.take b.limit)) ++ b.slots.drop cells.length).take blockRows
  sized := by
    have h := b.sized
    rw [List.length_take, List.length_append, List.length_map, List.length_drop]
    omega

def tooLarge? (b : ColumnBuffer) (cells : List Cell) : Option Nat :=
  cells.findSome? fun cell =>
    match cell with
    | some octets => if b.limit < octets.length then some octets.length else none
    | none => none

end ColumnBuffer

structure RowSet where
  columns : List ColumnBuffer
  filled : Nat := 0

namespace RowSet

def ofLimits (limits : List Nat) : RowSet := { columns := limits.map .empty }

def write (b : RowSet) (block : Block) : RowSet where
  columns := b.columns.mapIdx fun column buffer => buffer.write (block.column column)
  filled := block.length

def tooLarge? (b : RowSet) (block : Block) : Option FetchFault :=
  b.columns.zipIdx.findSome? fun (buffer, column) =>
    (buffer.tooLarge? (block.column column)).map fun size => .tooLarge (some size) column

def fetch (b : RowSet) (block : Block) : Except FetchFault RowSet :=
  match b.tooLarge? block with
  | some fault => .error fault
  | none => .ok (b.write block)

def cell (b : RowSet) (column row : Nat) : Cell :=
  ((b.columns[column]?).bind (·.slots[row]?)).join

def row (b : RowSet) (count row : Nat) : List Cell :=
  (List.range count).map fun column => b.cell column row

end RowSet

structure Field where
  name : String
  type : DataType
deriving DecidableEq, Repr

def addField (columns : Columns) (f : Field) : Columns :=
  columns.add f.name f.type.valueType (Int32.ofInt f.type.code)

def columnsOf (fields : List Field) : Columns := fields.foldl addField []

structure ResultSet where
  columnCount : Except Fault Int
  field : Nat → Except Fault Field
  limits : Nat → Except Fault (List Nat)
  arrivals : List (Except FetchFault Block)

def asked {α : Type} (answer : Except Fault α) : Result α :=
  answer.mapError fun f => (FetchFault.fault f).error

/-- A count of columns that 16 bits do not hold is taken for none. -/
def smallCount (n : Int) : Nat := if 0 ≤ n ∧ n ≤ 65535 then n.toNat else 0

def ResultSet.columns (r : ResultSet) (count : Nat) : Except Fault Columns :=
  (List.range count).foldlM (fun columns i => (r.field (i + 1)).map (addField columns)) []

def fetchAll (count : Nat) : List (Except FetchFault Block) → RowSet → Block → Result Block
  | [], _, rows => .ok rows
  | .error f :: _, _, _ => .error f.error
  | .ok block :: arrivals, buffers, rows =>
    match buffers.fetch block with
    | .error f => .error f.error
    | .ok buffers =>
      fetchAll count arrivals buffers (rows ++ (List.range buffers.filled).map (buffers.row count))

/-- Columns and rows of the first result, nothing where the execution has none. -/
def drain : Option ResultSet → Result (Columns × Block)
  | none => .ok ([], [])
  | some r => do
    let n ← asked r.columnCount
    let count := smallCount n
    let columns ← asked (r.columns count)
    if count = 0 then return (columns, [])
    else
      let limits ← asked (r.limits maxCell)
      let rows ← fetchAll count r.arrivals (.ofLimits limits) []
      return (columns, rows)

def liveRow (columns : Columns) (cells : List Cell) : LiveRow :=
  cells.zipIdx.map fun (cell, i) =>
    decode (match columns[i]? with
      | some c => c.type
      | none => .string) cell

inductive Message where
  | connect (text : String)
  | execute (parameters : List Parameter)
deriving DecidableEq, Repr

structure Opened where
  result : Option ResultSet
  rowCount : Except Fault (Option UInt64)

/-- The rows are read before the count is asked for. -/
def answer (opened : Except Fault Opened) : Result Answer := do
  let execution ← opened.mapError (·.at .execute "HY000")
  let (columns, rows) ← drain execution.result
  let affected ← execution.rowCount.mapError (·.at .execute "HY000")
  return ⟨columns, rows.map (liveRow columns), ⟨affected.getD 0, 0⟩⟩

def prepared (parameters : Nat) (client : List Parameter → Except Fault Opened) :
    Prepared Message where
  parameters
  run bound :=
    let sent := bound.map Parameter.ofValue
    (some (.execute sent), answer (client sent))

end SqlGateway.Odbc
