import SqlGateway.MySql.Cell
import SqlGateway.MySql.Field
import SqlGateway.Remote.Statement

namespace SqlGateway.MySql

structure Rejection where
  code : String
  message : String
deriving DecidableEq, Repr

/-- Why the client brings back nothing: the server rejected the request, or the client failed
itself, which has no number at the server. -/
inductive Fault where
  | server (r : Rejection)
  | client (message : String)
deriving DecidableEq, Repr

def Fault.rejection (fallback : String) : Fault → Rejection
  | server r => r
  | client message => ⟨fallback, message⟩

inductive Fetch where
  | row (cells : List Cell)
  | failed (f : Fault)
deriving DecidableEq, Repr

def Fetch.arrival : Fetch → Except Fault Unit
  | row _ => .ok ()
  | failed f => .error f

/-- One result of a batch, in the order in which the server sends them: its counters, and what each
fetch of a row gives. -/
inductive BatchResult where
  | set (affected : UInt64) (insertId : Option UInt64) (fetches : List Fetch)
  | failed (f : Fault)
deriving DecidableEq, Repr

namespace BatchResult

def done (affected insertId : UInt64) : BatchResult := set affected (some insertId) []

def rows (failure : Option Rejection) : BatchResult :=
  set 0 none (failure.toList.map fun r => .failed (.server r))

def rejected (r : Rejection) : BatchResult := failed (.server r)

end BatchResult

/-- Where a statement fails. Every execution prepares its text again before it sends anything. -/
inductive FailurePoint where
  | prepare
  | reprepare
  | execute
  | fetch
deriving DecidableEq, Repr

structure Script where
  parameters : Nat := 0
  fields : List Field := []
  rows : List (List Cell) := []
  affected : UInt64 := 0
  insertId : UInt64 := 0
  failure : Option (FailurePoint × Rejection) := none
deriving DecidableEq, Repr

/-- Batches run over the text protocol, prepared statements over the binary one. -/
structure Server where
  statements : List (String × Script) := []
  batches : List (String × List BatchResult) := []
  refusal : Option Rejection := none
deriving DecidableEq, Repr

def connectionUrl (target : String) : String := "mysql:" ++ target

/-- The client connects only to a URL that names a host, with a port of digits if there is one. -/
def namesHost (target : String) : Bool :=
  match target.toList with
  | '/' :: '/' :: rest =>
    let authority := rest.takeWhile fun c => c ≠ '/' && c ≠ '?' && c ≠ '#'
    let place := (authority.reverse.takeWhile (· ≠ '@')).reverse
    let host := place.takeWhile (· ≠ ':')
    let port := (place.dropWhile (· ≠ ':')).drop 1
    !host.isEmpty && (port.isEmpty || (Text.intWithin? 0 65535 port).isSome)
  | _ => false

def unknown (what : String) : Rejection := ⟨"1064", "unknown " ++ what⟩

/-- The counters with those of one more result, which is read to its last row or to its first
failure. -/
def BatchResult.addTo (stats : Stats) : BatchResult → Except Fault Stats
  | failed f => .error f
  | set affected insertId fetches => do
    fetches.forM Fetch.arrival
    return ⟨stats.affectedRows + affected,
      (insertId.filter (· ≠ 0)).getD stats.lastInsertId⟩

/-- A batch counts all changed rows and keeps the last identity that is not zero; the first failure
of a result or a row ends it. -/
def batchStats (results : List BatchResult) : Except Fault Stats :=
  results.foldlM BatchResult.addTo {}

def failed (stage : Stage) (r : Rejection) : Error := .native stage r.code r.message

def liveRow (fields : List Field) (cells : List Cell) : LiveRow :=
  cells.zipIdx.map fun (cell, i) =>
    cell.decode (match fields[i]? with
      | some f => f.valueType
      | none => .string)

def Script.run (s : Script) (bound : List Value) : Option (List Cell) × Result Answer :=
  let sent := some (bound.map Cell.encode)
  match s.failure with
  | some (.reprepare, r) => (none, .error (failed .execute r))
  | some (.execute, r) => (sent, .error (failed .execute r))
  | some (.fetch, r) => (sent, .error (failed .fetch r))
  | _ =>
    (sent, .ok ⟨columnsOf s.fields, s.rows.map (liveRow s.fields), ⟨s.affected, s.insertId⟩⟩)

def Server.results (server : Server) (sql : String) : List BatchResult :=
  (server.batches.lookup sql).getD [.rejected (unknown "batch")]

def Server.batch (server : Server) (sql : String) : Result Stats :=
  (batchStats (server.results sql)).mapError fun f => failed .execute (f.rejection "2000")

def Server.prepare (server : Server) (sql : String) : Result (Prepared (List Cell)) :=
  match server.statements.lookup sql with
  | none => .error (failed .prepare (unknown "statement"))
  | some s =>
    match s.failure with
    | some (.prepare, r) => .error (failed .prepare r)
    | _ => .ok ⟨s.parameters, s.run⟩

def Server.connect (server : Server) (target : String) : Result (RemoteConnection (List Cell)) :=
  if !namesHost target then .error (failed .connection ⟨"2005", "invalid URL"⟩)
  else match server.refusal with
    | some r => .error (failed .connection r)
    | none => .ok ⟨"mariadb", fun sql => (none, server.batch sql), server.prepare⟩

end SqlGateway.MySql
