import SqlGateway.Sql.Action
import SqlGateway.Sql.Location
import SqlGateway.Sql.Reader.Statement
import SqlGateway.Sqlite.Engine

namespace SqlGateway.Sql

inductive Lock where
  | none
  | shared
  | reserved
  | pending
  | exclusive
deriving DecidableEq, Repr, Inhabited

namespace Lock

def rank : Lock → Nat
  | none => 0
  | shared => 1
  | reserved => 2
  | pending => 3
  | exclusive => 4

def atLeast (l m : Lock) : Bool := m.rank ≤ l.rank

end Lock

structure Store where
  path : Option Path
  content : Content := {}

structure Client where
  store : Nat
  readOnly : Bool := false
  isOpen : Bool := true
  lock : Lock := .none
  autocommit : Bool := true
  draft : Option Content := none
  savepoints : List (String × Option Content) := []
  /-- The transaction ends with its last savepoint. -/
  savepointTransaction : Bool := false
  schemaKnown : Bool := false
  changes : Nat := 0
  totalChanges : Nat := 0
  lastRowid : Int64 := 0

inductive Run where
  | ready
  | active (rest : Pending)
  | halted

structure Machine where
  client : Nat
  written : Written
  bound : List Datum
  fields : List Field
  run : Run := .ready
  row : Cells := []
  access : Access := .none
  /-- Changed rows that count once the run ends. -/
  changed : Option Nat := none

/-- Each connection works on a draft of its own until it commits; locks keep two of them from
writing at once, and a writer from committing while another one reads. -/
structure World where
  directories : List Path := []
  stores : List Store := []
  clients : List Client := []
  machines : List (Option Machine) := []

instance : Inhabited Client := ⟨{ store := 0 }⟩

namespace World

def client (w : World) (i : Nat) : Client := w.clients.getD i default

def setClient (w : World) (i : Nat) (c : Client) : World := { w with clients := w.clients.set i c }

def machine? (w : World) (id : Nat) : Option Machine := (w.machines[id]?).join

def setMachine (w : World) (id : Nat) (m : Machine) : World :=
  { w with machines := w.machines.set id (some m) }

def committed (w : World) (i : Nat) : Content :=
  ((w.stores[(w.client i).store]?).map (·.content)).getD {}

def content (w : World) (i : Nat) : Content := (w.client i).draft.getD (w.committed i)

def others (w : World) (i : Nat) : List Client :=
  (w.clients.zipIdx.filter fun (c, j) =>
    j ≠ i && c.isOpen && c.store = (w.client i).store).map (·.1)

def Machine.isActive (m : Machine) : Bool :=
  match m.run with
  | .active _ => true
  | _ => false

def activeBeside (w : World) (i id : Nat) : List Machine :=
  w.machines.zipIdx.filterMap fun (m, j) =>
    match m with
    | some m => if j ≠ id ∧ m.client = i ∧ Machine.isActive m then some m else none
    | none => none

def acquireRead (i : Nat) (w : World) : Except Failure World :=
  let c := w.client i
  if c.lock.atLeast .shared then .ok w
  else if (w.others i).any (·.lock.atLeast .pending) then .error .locked
  else .ok (w.setClient i { c with lock := .shared })

def acquireWrite (i : Nat) (w : World) : Except Failure World := do
  let w ← acquireRead i w
  let c := w.client i
  if c.readOnly then throw .readOnly
  if c.lock.atLeast .reserved then return w
  if (w.others i).any (·.lock.atLeast .reserved) then throw .locked
  return w.setClient i { c with lock := .reserved }

def acquireExclusive (i : Nat) (w : World) : Except Failure World := do
  let w ← acquireWrite i w
  if (w.others i).any (·.lock.atLeast .shared) then throw .locked
  return w.setClient i { w.client i with lock := .exclusive }

def acquire (access : Access) (i : Nat) (w : World) : Except Failure World :=
  match access with
  | .none => .ok w
  | .read => acquireRead i w
  | .write => acquireWrite i w

/-- A connection outside of a transaction keeps a lock only for the statements that still read. -/
def release (i id : Nat) (w : World) : World :=
  let c := w.client i
  if !c.autocommit then w
  else
    let beside := w.activeBeside i id
    if beside.any (·.access = .write) then w
    else
      let lock := if beside.any (·.access ≠ .none) then Lock.shared else .none
      w.setClient i { c with lock := if c.lock.atLeast lock then lock else c.lock }

def commit (i : Nat) (w : World) : Except Failure World :=
  let c := w.client i
  match c.draft with
  | none => .ok w
  | some content =>
    if (w.others i).any (·.lock.atLeast .shared) then .error .locked
    else
      let stores := w.stores.modify c.store fun s => { s with content }
      .ok ({ w with stores }.setClient i { c with draft := none })

def halt (id : Nat) (w : World) : World :=
  match w.machine? id with
  | some m => w.setMachine id { m with run := .halted, row := [], changed := none }
  | none => w

/-- Ends a run that failed: what it changed is undone. `before` is the draft at its start. -/
def abandon (id : Nat) (m : Machine) (before : Option Content) (w : World) : World :=
  let i := m.client
  let c := w.client i
  let draft := if m.access = .write then before else c.draft
  let c := { c with draft, changes := if m.access = .write then 0 else c.changes }
  release i id (halt id (w.setClient i c))

/-- Ends a run that did all its work, and commits unless a transaction goes on. -/
def conclude (id : Nat) (m : Machine) (w : World) : Option Failure × World :=
  let i := m.client
  let c := w.client i
  let counted := match m.changed with
    | some n => { c with changes := n, totalChanges := c.totalChanges + n }
    | none => c
  let writing := (w.activeBeside i id).any (·.access = .write)
  if !c.autocommit ∨ writing then (none, release i id (halt id (w.setClient i counted)))
  else match commit i (w.setClient i counted) with
    | .ok w => (none, release i id (halt id w))
    | .error failure => (some failure, abandon id m none w)

def failed (failure : Failure) : Sqlite.Outcome := .failed ⟨failure.code, failure.message⟩

def proceed (id : Nat) (m : Machine) (rest : Pending) (w : World) : Sqlite.Outcome × World :=
  match rest.next (w.content m.client) ⟨m.bound, []⟩ with
  | some (.ok row, rest) => (.row, w.setMachine id { m with run := .active rest, row })
  | some (.error failure, _) =>
    (failed failure, abandon id m (w.client m.client).draft w)
  | none =>
    match conclude id m w with
    | (some failure, w) => (failed failure, w)
    | (none, w) => (.done, w)

def applyChange (id : Nat) (m : Machine) (before : Option Content) (c : Content)
    (result : Option Failure × Progress) (w : World) : Sqlite.Outcome × World :=
  let (failure?, p) := result
  let client := w.client m.client
  let lastRowid := match p.lastRowid with
    | some n => Int64.ofInt n
    | none => client.lastRowid
  let w := w.setClient m.client { client with lastRowid, draft := some (c.setTable p.table) }
  match failure? with
  | some failure => (failed failure, abandon id m before w)
  | none => proceed id { m with changed := some p.changes } (.listed (p.returned.map .ok)) w

def endTransaction (i : Nat) (w : World) : World :=
  w.setClient i { w.client i with
    autocommit := true, draft := none, savepoints := [], savepointTransaction := false }

def beginTransaction (i : Nat) (mode : BeginMode) (w : World) : Except Failure World := do
  let w ← match mode with
    | .deferred => pure w
    | .immediate => if (w.client i).readOnly then acquireRead i w else acquireWrite i w
    | .exclusive => if (w.client i).readOnly then acquireRead i w else acquireExclusive i w
  let c := w.client i
  if !c.autocommit then throw (.transaction .nested)
  return w.setClient i { c with autocommit := false }

/-- A commit that has to wait for readers keeps new ones out. -/
def commitTransaction (i id : Nat) (w : World) : Except Failure World × World :=
  let c := w.client i
  if c.autocommit then (.error (.transaction .nothingToCommit), w)
  else if (w.activeBeside i id).any (·.access = .write) then
    (.error (.transaction .statementsInProgress), w)
  else match commit i w with
    | .ok w => (.ok (endTransaction i w), w)
    | .error failure =>
      let lock := if c.lock.atLeast .pending then c.lock else .pending
      (.error failure, w.setClient i { c with lock })

def releaseSavepoint (i id : Nat) (name : String) (w : World) : Except Failure World × World :=
  let c := w.client i
  let rest := c.savepoints.dropWhile fun (n, _) => !sameName n name
  if rest.isEmpty then (.error (.noSuch .savepoint name), w)
  else if rest.length = 1 ∧ c.savepointTransaction then commitTransaction i id w
  else (.ok (w.setClient i { c with savepoints := rest.drop 1 }), w)

def transact (i id : Nat) (s : Statement) (w : World) : Except Failure World × World :=
  let c := w.client i
  match s with
  | .begin mode => (beginTransaction i mode w, w)
  | .commit => commitTransaction i id w
  | .rollback =>
    (if c.autocommit then .error (.transaction .nothingToRollBack) else .ok (endTransaction i w), w)
  | .savepoint name =>
    (.ok (w.setClient i { c with
      autocommit := false, savepoints := (name, c.draft) :: c.savepoints
      savepointTransaction := c.savepointTransaction || c.autocommit }), w)
  | .release name => releaseSavepoint i id name w
  | .rollbackTo name =>
    match c.savepoints.dropWhile fun (n, _) => !sameName n name with
    | [] => (.error (.noSuch .savepoint name), w)
    | (n, draft) :: rest =>
      (.ok (w.setClient i { c with draft, savepoints := (n, draft) :: rest }), w)
  | _ => (.ok w, w)

def blocksDrop (i id : Nat) (s : Statement) (w : World) : Bool :=
  match s with
  | .drop .table .. | .drop .index .. => (w.activeBeside i id).any (·.access ≠ .none)
  | _ => false

def perform (id : Nat) (m : Machine) (action : Action) (w : World) : Sqlite.Outcome × World :=
  let i := m.client
  let before := (w.client i).draft
  let c := w.content i
  let f : Frame := ⟨m.bound, []⟩
  let refused (failure : Failure) (w : World) : Sqlite.Outcome × World :=
    (failed failure, abandon id m before w)
  let change (table : String) (run : Table → Option Failure × Progress) : Sqlite.Outcome × World :=
    match c.table? table with
    | some t => applyChange id m before c (run t) w
    | none => refused (.noSuch .table table) w
  match action with
  | .query q => proceed id m (.ofQuery c f q) w
  | .insert p => change p.table fun t => p.run c t f
  | .update p => change p.table fun t => p.run t f
  | .delete p => change p.table fun t => p.run t f
  | .define =>
    if w.blocksDrop i id m.written.statement then refused .tableLocked w
    else match define c m.written.statement with
      | .error failure => refused failure w
      | .ok content =>
        proceed id m (.listed []) (w.setClient i { w.client i with draft := some content })
  | .transaction =>
    match transact i id m.written.statement w with
    | (.error failure, w) => (failed failure, release i id (halt id w))
    | (.ok w, _) => (.done, release i id (halt id w))

/-- Begins a run: resolves the names again, takes the locks and carries the statement out. -/
def start (id : Nat) (m : Machine) (w : World) : Sqlite.Outcome × World :=
  let i := m.client
  let before := (w.client i).draft
  let s := m.written.statement
  let m := { m with row := [], changed := none }
  let resolved := resolveStatement (w.content i) s
  let access := match resolved with
    | .ok r => r.action.access
    | .error _ => if s.namesObjects then .read else .none
  let m := { m with access }
  match acquire access i w with
  | .error failure => (failed failure, abandon id m before w)
  | .ok w =>
    match resolved with
    | .error failure => (failed failure, abandon id m before w)
    | .ok r =>
      let m := { m with fields := r.fields }
      perform id m r.action (w.setMachine id m)

/-- What is left of a world once the program that used it has ended: the databases in files. -/
def restart (w : World) : World :=
  { directories := w.directories, stores := w.stores.filter (·.path.isSome) }

def fault (failure : Failure) : Sqlite.Failure := ⟨failure.code, failure.message⟩

def storeOf (path : Path) (mode : AccessMode) (w : World) : Except Failure (Nat × World) :=
  match w.stores.findIdx? (·.path = some path) with
  | some s => .ok (s, w)
  | none =>
    let place := path.parts ≠ [] ∧ path ∉ w.directories ∧
      (path.parent ∈ w.directories ∨ path.parent = ⟨false, []⟩)
    if place ∧ mode = .create then
      .ok (w.stores.length, { w with stores := w.stores ++ [⟨some path, {}⟩] })
    else .error .cannotOpen

def openDatabase (text : String) (w : World) : Except Sqlite.Failure Nat × World :=
  let opened : Except Failure (Nat × World) := do
    match ← Location.ofText text with
    | .memory =>
      return (w.clients.length, { w with
        stores := w.stores ++ [⟨none, {}⟩]
        clients := w.clients ++ [{ store := w.stores.length }] })
    | .file path mode =>
      let (s, w) ← storeOf path mode w
      return (w.clients.length,
        { w with clients := w.clients ++ [{ store := s, readOnly := mode = .readOnly }] })
  match opened with
  | .ok (i, w) => (.ok i, w)
  | .error failure => (.error (fault failure), w)

def closeDatabase (i : Nat) (w : World) : World :=
  w.setClient i { w.client i with isOpen := false, lock := .none, draft := none }

def prepare (i : Nat) (text : List Char) (w : World) :
    Except Sqlite.Failure (Option Nat × List Char) × World :=
  match readStatement text with
  | (.error failure, _) => (.error (fault failure), w)
  | (.ok none, rest) => (.ok (none, rest), w)
  | (.ok (some written), rest) =>
    let c := w.client i
    let needsSchema := written.statement.namesObjects
    if needsSchema && !c.schemaKnown && (w.others i).any (·.lock.atLeast .pending) then
      (.error (fault .locked), w)
    else
      let w := w.setClient i { c with schemaKnown := c.schemaKnown || needsSchema }
      match resolveStatement (w.content i) written.statement with
      | .error failure => (.error (fault failure), w)
      | .ok r =>
        let bound := written.parameters.map fun _ => Datum.null
        let machine : Machine := ⟨i, written, bound, r.fields, .ready, [], .none, none⟩
        (.ok (some w.machines.length, rest), { w with machines := w.machines ++ [some machine] })

def step (id : Nat) (w : World) : Sqlite.Outcome × World :=
  match w.machine? id with
  | none => (.failed (Sqlite.misuse "bad parameter or other API misuse"), w)
  | some m =>
    match m.run with
    | .active rest => proceed id m rest w
    | _ => start id m w

def reset (id : Nat) (w : World) : World :=
  match w.machine? id with
  | none => w
  | some m =>
    let w := match m.run with
      | .active _ => (conclude id m w).2
      | _ => w
    w.setMachine id { m with run := .ready, row := [], changed := none }

def finalize (id : Nat) (w : World) : World :=
  let w := reset id w
  { w with machines := w.machines.set id none }

def bind (id index : Nat) (d : Datum) (w : World) : Except Sqlite.Failure Unit × World :=
  match w.machine? id with
  | none => (.error (Sqlite.misuse "bad parameter or other API misuse"), w)
  | some m =>
    match m.run with
    | .ready =>
      if index = 0 ∨ m.bound.length < index then (.error (fault .parameterOutOfRange), w)
      else (.ok (), w.setMachine id { m with bound := m.bound.set (index - 1) d })
    | _ => (.error (Sqlite.misuse "bad parameter or other API misuse"), w)

def columns (id : Nat) (w : World) : List Sqlite.ResultColumn :=
  match w.machine? id with
  | some m => m.fields.map fun f => ⟨f.name, f.declared, f.originName, f.originTable⟩
  | none => []

def counters (i : Nat) (w : World) : Sqlite.Counters :=
  let c := w.client i
  ⟨c.changes, c.totalChanges, c.lastRowid⟩

end World

def engine : Sqlite.Engine World where
  openDatabase := World.openDatabase
  closeDatabase := World.closeDatabase
  prepare := World.prepare
  finalize := World.finalize
  step := World.step
  reset := World.reset
  bind := World.bind
  parameters id w := ((w.machine? id).map (·.written.parameters)).getD []
  columns := World.columns
  row id w := ((w.machine? id).map (·.row)).getD []
  counters := World.counters

end SqlGateway.Sql
