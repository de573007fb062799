import SqlGateway.Session.Basic

namespace SqlGateway.Session

variable {σ : Type} (E : Sqlite.Engine σ)

def parameterIndex? (id : Nat) (name : String) (s : Session σ) : Option Nat :=
  match s.statement? id with
  | some (.embedded t) => t.parameterIndex? E name s.engine
  | _ => none

def parameterName? (id index : Nat) (s : Session σ) : Option String :=
  match s.statement? id with
  | some (.embedded t) => t.parameterName? E index s.engine
  | _ => none

def bind (id index : Nat) (v : Value) (s : Session σ) : Result Unit × Session σ :=
  match s.statement? id with
  | none => (.error (noObject "statement"), s)
  | some (.remote t) =>
    match t.bind index v with
    | .error e => (.error e, s)
    | .ok t => (.ok (), s.setStatement id (.remote t))
  | some (.embedded t) =>
    let (r, t, engine) := t.bind E index v s.engine
    (r, { s with engine }.setStatement id (.embedded t))

def bindNamed (id : Nat) (name : String) (v : Value) (s : Session σ) : Result Unit × Session σ :=
  match parameterIndex? E id name s with
  | some index => bind E id index v s
  | none => (.error (unknownParameter name), s)

def run (id : Nat) (s : Session σ) : Result Nat × Session σ :=
  match s.statement? id with
  | none => (.error (noObject "statement"), s)
  | some (.remote t) =>
    let (sent, r, t) := t.execute
    let s := (s.setStatement id (.remote t)).receive sent
    match r with
    | .error e => (.error e, s)
    | .ok c => let (c, s) := s.addCursor (.fetched id c); (.ok c, s)
  | some (.embedded t) =>
    let (r, t, engine) := t.execute E s.engine
    let s := { s with engine }.setStatement id (.embedded t)
    match r with
    | .error e => (.error e, s)
    | .ok c => let (c, s) := s.addCursor (.stepping id c); (.ok c, s)

end SqlGateway.Session
