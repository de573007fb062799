import SqlGateway.Postgres.Wire
import SqlGateway.Remote.Statement

namespace SqlGateway.Postgres

structure Rejection where
  code : String
  message : String
deriving DecidableEq, Repr

/-- Where a statement fails. The client may lose the server before it sends an execution. -/
inductive FailurePoint where
  | prepare
  | send
  | execute
  | fetch
deriving DecidableEq, Repr

structure Field where
  name : String
  oid : Nat
deriving DecidableEq, Repr

structure Script where
  parameters : List Nat := []
  fields : List Field := []
  rows : List (List (Option Blob)) := []
  /-- What the server says on completion, such as `INSERT 0 2`. -/
  tag : String := ""
  failure : Option (FailurePoint × Rejection) := none
deriving DecidableEq, Repr

/-- A text of several commands: the tag of each, nothing for an empty one. -/
structure Batch where
  tags : List (Option String) := []
  failure : Option Rejection := none
deriving DecidableEq, Repr

structure Server where
  statements : List (String × Script) := []
  batches : List (String × Batch) := []
  refusal : Option Rejection := none
deriving DecidableEq, Repr

/-- A text after two slashes is a URL again, every other one a list of settings. -/
def connectionString (target : String) : String :=
  if target.startsWith "//" then "postgresql:" ++ target else Text.trim target

/-- The count that a tag ends in, zero if it ends in no count. -/
def affectedRows (tag : String) : UInt64 :=
  let digits := (tag.toList.reverse.takeWhile (· ≠ ' ')).reverse
  UInt64.ofNat (((Text.intWithin? 0 uint64Max digits).getD 0).toNat)

def columnsOf (fields : List Field) : Columns :=
  fields.foldl (fun cols f =>
    cols.add f.name (Kind.ofOid f.oid).valueType (Int32.ofNat f.oid)) []

def liveRow (fields : List Field) (cells : List (Option Blob)) : LiveRow :=
  cells.zipIdx.map fun (cell, i) =>
    decode (match fields[i]? with
      | some f => f.oid
      | none => 0) i cell

def failed (stage : Stage) (r : Rejection) : Error := .native stage r.code r.message

def encodeFrom : Nat → List Nat → List Value → Result (List (Option Blob))
  | i, oid :: oids, v :: vs =>
    match encode oid v with
    | .error e =>
      .error (.native .execute "XX000"
        ("error serializing parameter " ++ toString i ++ ": " ++ e.message))
    | .ok p => (encodeFrom (i + 1) oids vs).map (p :: ·)
  | _, _, _ => .ok []

def encodeAll (oids : List Nat) (vs : List Value) : Result (List (Option Blob)) :=
  encodeFrom 0 oids vs

/-- Nothing reaches the server unless every parameter can be sent. -/
def Script.run (s : Script) (bound : List Value) :
    Option (List (Option Blob)) × Result Answer :=
  match encodeAll s.parameters bound with
  | .error e => (none, .error e)
  | .ok sent =>
    match s.failure with
    | some (.send, r) => (none, .error (failed .execute r))
    | some (.execute, r) => (some sent, .error (failed .execute r))
    | some (.fetch, r) => (some sent, .error (failed .fetch r))
    | _ =>
      (some sent,
        .ok ⟨columnsOf s.fields, s.rows.map (liveRow s.fields), ⟨affectedRows s.tag, 0⟩⟩)

/-- A batch reports what its last completed command did. -/
def Batch.stats (b : Batch) : Result Stats :=
  match b.failure with
  | some r => .error (failed .execute r)
  | none =>
    match b.tags.reverse.findSome? id with
    | some tag => .ok ⟨affectedRows tag, 0⟩
    | none => .ok {}

def unknown (what : String) : Rejection := ⟨"42601", "unknown " ++ what⟩

def Server.batch (server : Server) (sql : String) : Result Stats :=
  match server.batches.lookup sql with
  | some b => b.stats
  | none => .error (failed .execute (unknown "batch"))

def Server.prepare (server : Server) (sql : String) : Result (Prepared (List (Option Blob))) :=
  match server.statements.lookup sql with
  | none => .error (failed .prepare (unknown "statement"))
  | some s =>
    match s.failure with
    | some (.prepare, r) => .error (failed .prepare r)
    | _ => .ok ⟨s.parameters.length, s.run⟩

def Server.connect (server : Server) : Result (RemoteConnection (List (Option Blob))) :=
  match server.refusal with
  | some r => .error (failed .connection r)
  | none => .ok ⟨"postgresql", fun sql => (none, server.batch sql), server.prepare⟩

end SqlGateway.Postgres
