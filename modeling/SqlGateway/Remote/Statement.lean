import SqlGateway.Rows.Fetched
import SqlGateway.Rows.Parameters

namespace SqlGateway

structure Answer where
  columns : Columns := []
  rows : List LiveRow := []
  stats : Stats := {}

/-- A statement that the database holds ready. Running it on one value per parameter tells what
reached the server, if anything did, and how the server answered. -/
structure Prepared (ω : Type) where
  parameters : Nat
  run : List Value → Option ω × Result Answer

structure RemoteStatement (ω : Type) where
  prepared : Prepared ω
  bound : Parameters
  /-- Counts executions and accepted bindings, and wraps around; only the cursor of the latest
  execution can be read, and none after a new binding. -/
  generation : UInt64 := 0

structure RemoteConnection (ω : Type) where
  driver : String
  batch : String → Option ω × Result Stats
  prepare : String → Result (Prepared ω)

def Prepared.map {ω υ : Type} (f : ω → υ) (p : Prepared ω) : Prepared υ :=
  ⟨p.parameters, fun vs => let (sent, answer) := p.run vs; (sent.map f, answer)⟩

def RemoteConnection.map {ω υ : Type} (f : ω → υ) (c : RemoteConnection ω) :
    RemoteConnection υ where
  driver := c.driver
  batch sql := let (sent, stats) := c.batch sql; (sent.map f, stats)
  prepare sql := (c.prepare sql).map (Prepared.map f)

namespace RemoteStatement

variable {ω : Type}

def ofPrepared (p : Prepared ω) : RemoteStatement ω := ⟨p, Parameters.unbound p.parameters, 0⟩

def bind (s : RemoteStatement ω) (index : Nat) (v : Value) : Result (RemoteStatement ω) :=
  (s.bound.set index v).map fun bound => { s with bound, generation := s.generation + 1 }

/-- The cursor carries the generation that this execution began; a failed execution begins one
too. -/
def execute (s : RemoteStatement ω) : Option ω × Result Fetched × RemoteStatement ω :=
  let s := { s with generation := s.generation + 1 }
  let (sent, answer) := s.prepared.run s.bound
  (sent, answer.map fun a => ⟨a.columns, a.rows, a.stats, s.generation, 0⟩, s)

end RemoteStatement
end SqlGateway
