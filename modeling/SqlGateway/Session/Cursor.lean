import SqlGateway.Session.Connection
import SqlGateway.Session.Statement

namespace SqlGateway.Session

variable {σ : Type} (E : Sqlite.Engine σ)

def hasRow (id : Nat) (s : Session σ) : Bool :=
  match s.cursor? id with
  | some (.fetched t c) => c.hasRow (s.generation t)
  | some (.stepping t c) =>
    match s.statement? t with
    | some (.embedded t) => c.hasRow t
    | _ => false
  | some (.buffered b) => b.hasRow
  | some (.faulty f) => f.hasRow
  | none => false

def current (id : Nat) (s : Session σ) : Result LiveRow :=
  match s.cursor? id with
  | some (.fetched t c) => c.current (s.generation t)
  | some (.stepping t c) =>
    match s.statement? t with
    | some (.embedded t) => c.current E t s.engine
    | _ => .error .invalidIterator
  | some (.buffered b) => b.current.map Row.live
  | some (.faulty f) => f.current
  | none => .error (noObject "cursor")

def advance (id : Nat) (s : Session σ) : Result Bool × Session σ :=
  match s.cursor? id with
  | some (.fetched t c) =>
    let (r, c) := c.advance (s.generation t)
    (r, s.setCursor id (.fetched t c))
  | some (.stepping t c) =>
    match s.statement? t with
    | some (.embedded native) =>
      let (r, c, native, engine) := c.advance E native s.engine
      (r, ({ s with engine }.setStatement t (.embedded native)).setCursor id (.stepping t c))
    | _ => (.error .invalidIterator, s)
  | some (.buffered b) =>
    let (more, b) := b.advance
    (.ok more, s.setCursor id (.buffered b))
  | some (.faulty f) =>
    let (r, f) := f.advance
    (r, s.setCursor id (.faulty f))
  | none => (.error (noObject "cursor"), s)

/-- The rows of one cursor, as a source whose state is the whole session. -/
def feed (id : Nat) : Feed (Session σ) where
  hasRow := hasRow id
  current := current E id
  advance := advance E id

def columns (id : Nat) (s : Session σ) : Columns := ((s.cursor? id).map (·.columns)).getD []

def stats (id : Nat) (s : Session σ) : Stats := ((s.cursor? id).map (·.stats)).getD {}

/-- Rows of a driver belong to their statement, rows of a buffer to the buffer. -/
def position (id : Nat) (s : Session σ) : Position :=
  if hasRow id s then
    match s.cursor? id with
    | some (.fetched t c) => .at (.statement t) c.index
    | some (.stepping t c) => .at (.statement t) c.steps
    | some (.buffered b) => .at (.buffer id) b.index
    | some (.faulty f) => .at (.buffer id) f.index
    | none => .atEnd
  else .atEnd

/-- A statement is needed by the user or by a cursor that the user holds. -/
def needsStatement (id : Nat) (s : Session σ) : Bool :=
  (match s.statements[id]? with
    | some slot => slot.held
    | none => false)
    || s.cursors.any fun slot => slot.held && slot.item.statement? = some id

def needsConnection (id : Nat) (s : Session σ) : Bool :=
  (match s.connections[id]? with
    | some slot => slot.held
    | none => false)
    || s.statements.zipIdx.any fun (slot, t) => slot.connection = id && needsStatement t s

def settleConnection (id : Nat) (s : Session σ) : Session σ :=
  match s.connection? id with
  | some (.embedded database) =>
    if needsConnection id s then s else { s with engine := E.closeDatabase database s.engine }
  | _ => s

/-- Frees a native statement that nothing needs, and what it needed itself. -/
def settleStatement (id : Nat) (s : Session σ) : Session σ :=
  match s.statements[id]? with
  | none => s
  | some slot =>
    if needsStatement id s then s
    else
      let s := match slot.item with
        | .embedded t => { s with engine := E.finalize t.native s.engine }
        | .remote _ => s
      settleConnection E slot.connection s

def dropConnection (id : Nat) (s : Session σ) : Session σ :=
  settleConnection E id
    { s with connections := s.connections.modify id fun slot => { slot with held := false } }

def dropStatement (id : Nat) (s : Session σ) : Session σ :=
  settleStatement E id
    { s with statements := s.statements.modify id fun slot => { slot with held := false } }

def dropCursor (id : Nat) (s : Session σ) : Session σ :=
  let s' := { s with cursors := s.cursors.modify id fun slot => { slot with held := false } }
  match s.cursor? id with
  | some (.stepping t c) =>
    match s.statement? t with
    | some (.embedded native) =>
      let (native, engine) := c.drop E native s.engine
      settleStatement E t ({ s' with engine }.setStatement t (.embedded native))
    | _ => s'
  | some (.fetched t _) => settleStatement E t s'
  | _ => s'

def toBuffered (id : Nat) (s : Session σ) : Result Buffered × Session σ :=
  let (r, s) := (feed E id).collect s
  (r.map fun rows => ⟨columns id s, rows, stats id s, 0⟩, s)

def runBuffered (id : Nat) (s : Session σ) : Result Buffered × Session σ :=
  match run E id s with
  | (.error e, s) => (.error e, s)
  | (.ok c, s) =>
    let (r, s) := toBuffered E c s
    (r, dropCursor E c s)

def runEach {κ : Type} (id : Nat) (callback : κ → Row → Verdict × κ) (k : κ) (s : Session σ) :
    Result Nat × κ × Session σ :=
  match run E id s with
  | (.error e, s) => (.error e, k, s)
  | (.ok c, s) =>
    let (r, k, s) := (feed E c).forEach callback k s
    (r, k, dropCursor E c s)

end SqlGateway.Session
