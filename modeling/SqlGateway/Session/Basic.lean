import SqlGateway.MySql.Server
import SqlGateway.Odbc.Source
import SqlGateway.Postgres.Server
import SqlGateway.Rows.Buffered
import SqlGateway.Sqlite.Statement

namespace SqlGateway

inductive Message where
  | odbc (m : Odbc.Message)
  | postgres (parameters : List (Option Blob))
  | mysql (parameters : List MySql.Cell)
deriving DecidableEq, Repr

structure Servers where
  postgres : Postgres.Server := {}
  mysql : MySql.Server := {}
  odbc : Odbc.Source := {}
deriving DecidableEq, Repr

inductive Connection where
  | remote (c : RemoteConnection Message)
  | embedded (database : Nat)

inductive Statement where
  | remote (t : RemoteStatement Message)
  | embedded (t : Sqlite.Statement)

inductive Cursor where
  | fetched (statement : Nat) (c : Fetched)
  | stepping (statement : Nat) (c : Sqlite.Cursor)
  | buffered (b : Buffered)
  | faulty (f : Faulty)

structure Slot (α : Type) where
  item : α
  held : Bool := true

structure StatementSlot extends Slot Statement where
  connection : Nat

/-- What a user of the library holds, each object under a number that it keeps for good; `σ` is the
state of the embedded engine. An object goes only when nothing needs it any more. -/
structure Session (σ : Type) where
  engine : σ
  servers : Servers := {}
  connections : List (Slot Connection) := []
  statements : List StatementSlot := []
  cursors : List (Slot Cursor) := []
  received : List Message := []

def Connection.driver : Connection → String
  | remote c => c.driver
  | embedded _ => "sqlite"

def Statement.generation : Statement → UInt64
  | remote t => t.generation
  | embedded t => t.generation

def Statement.parameterCount : Statement → Nat
  | remote t => t.bound.length
  | embedded t => t.parameters

def Cursor.statement? : Cursor → Option Nat
  | fetched n _ | stepping n _ => some n
  | buffered _ | faulty _ => none

def Cursor.columns : Cursor → Columns
  | fetched _ c => c.columns
  | stepping _ c => c.columns
  | buffered b => b.columns
  | faulty f => f.columns

def Cursor.stats : Cursor → Stats
  | fetched _ c => c.stats
  | stepping _ c => c.stats
  | buffered b => b.stats
  | faulty f => f.stats

namespace Session

variable {σ : Type}

def connection? (s : Session σ) (id : Nat) : Option Connection := (s.connections[id]?).map (·.item)

def statement? (s : Session σ) (id : Nat) : Option Statement := (s.statements[id]?).map (·.item)

def cursor? (s : Session σ) (id : Nat) : Option Cursor := (s.cursors[id]?).map (·.item)

def generation (s : Session σ) (id : Nat) : UInt64 := ((s.statement? id).map (·.generation)).getD 0

def addConnection (s : Session σ) (c : Connection) : Nat × Session σ :=
  (s.connections.length, { s with connections := s.connections ++ [{ item := c }] })

def addStatement (s : Session σ) (connection : Nat) (t : Statement) : Nat × Session σ :=
  (s.statements.length,
    { s with statements := s.statements ++ [{ item := t, connection := connection }] })

def addCursor (s : Session σ) (c : Cursor) : Nat × Session σ :=
  (s.cursors.length, { s with cursors := s.cursors ++ [{ item := c }] })

def setStatement (s : Session σ) (id : Nat) (t : Statement) : Session σ :=
  { s with statements := s.statements.modify id fun slot => { slot with item := t } }

def setCursor (s : Session σ) (id : Nat) (c : Cursor) : Session σ :=
  { s with cursors := s.cursors.modify id fun slot => { slot with item := c } }

def receive (s : Session σ) (m : Option Message) : Session σ :=
  { s with received := s.received ++ m.toList }

def takeReceived (s : Session σ) : List Message × Session σ :=
  (s.received, { s with received := [] })

def noObject (what : String) : Error := .notFound what

end Session
end SqlGateway
