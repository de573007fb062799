import SqlGateway.Rows.Column
import SqlGateway.Rows.Feed

namespace SqlGateway

structure Buffered where
  columns : Columns := []
  rows : List Row := []
  stats : Stats := {}
  /-- The row that the cursor stands on; at the end it is the number of rows. -/
  index : Nat := 0
deriving DecidableEq, Repr, Inhabited

namespace Buffered

def addColumn (b : Buffered) (name : String) (type : ValueType) (originName originTable : String) :
    Buffered :=
  { b with columns := b.columns.add name type 0 originName originTable }

def addRow (b : Buffered) (row : Row) : Buffered := { b with rows := b.rows ++ [row] }

def setStats (b : Buffered) (stats : Stats) : Buffered := { b with stats }

def row (b : Buffered) (index : Nat) : Result Row :=
  match b.rows[index]? with
  | some r => .ok r
  | none => .error (.outOfRange index b.rows.length)

def rewind (b : Buffered) : Buffered := { b with index := 0 }

def hasRow (b : Buffered) : Bool := b.index < b.rows.length

def current (b : Buffered) : Result Row :=
  match b.rows[b.index]? with
  | some r => .ok r
  | none => .error .invalidIterator

def advance (b : Buffered) : Bool × Buffered :=
  let b := if b.index < b.rows.length then { b with index := b.index + 1 } else b
  (b.hasRow, b)

def feed : Feed Buffered where
  hasRow := hasRow
  current b := b.current.map Row.live
  advance b := let (more, b) := b.advance; (.ok more, b)

end Buffered
end SqlGateway
