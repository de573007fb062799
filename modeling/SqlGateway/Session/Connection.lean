import SqlGateway.Catalog.Basic
import SqlGateway.Session.Basic

namespace SqlGateway.Session

variable {σ : Type} (E : Sqlite.Engine σ)

def openEmbedded (target : String) (s : Session σ) : Result Nat × Session σ :=
  match E.connect target s.engine with
  | (.error e, engine) => (.error e, { s with engine })
  | (.ok database, engine) =>
    let (id, s) := { s with engine }.addConnection (.embedded database)
    (.ok id, s)

def openRemote (r : Result (RemoteConnection Message)) (s : Session σ) : Result Nat × Session σ :=
  match r with
  | .error e => (.error e, s)
  | .ok c => let (id, s) := s.addConnection (.remote c); (.ok id, s)

def sqlite : Driver (Session σ) Nat where
  name := "sqlite"
  schemes := ["sqlite"]
  connect _ target s := openEmbedded E target s

def postgresql : Driver (Session σ) Nat where
  name := "postgresql"
  schemes := ["postgresql", "postgres", "pg"]
  connect _ _ s := openRemote (s.servers.postgres.connect.map (·.map .postgres)) s

def mariadb : Driver (Session σ) Nat where
  name := "mariadb"
  schemes := ["mariadb", "maria", "mysql", "my"]
  connect _ target s := openRemote ((s.servers.mysql.connect target).map (·.map .mysql)) s

def odbc : Driver (Session σ) Nat where
  name := "odbc"
  schemes := ["odbc"]
  connect _ target s :=
    let (sent, r) := s.servers.odbc.connect target
    openRemote (r.map (·.map .odbc)) (s.receive (sent.map .odbc))

def catalogOf (drivers : List (Driver (Session σ) Nat)) : Catalog (Session σ) Nat :=
  drivers.foldl Catalog.register {}

def drivers : List (Driver (Session σ) Nat) := [sqlite E, postgresql, mariadb, odbc]

def catalog : Catalog (Session σ) Nat := catalogOf (drivers E)

def execute (id : Nat) (sql : String) (s : Session σ) : Result Stats × Session σ :=
  match s.connection? id with
  | none => (.error (noObject "connection"), s)
  | some (.remote c) => let (sent, r) := c.batch sql; (r, s.receive sent)
  | some (.embedded database) =>
    let (r, engine) := E.execute database sql s.engine
    (r, { s with engine })

def prepare (id : Nat) (sql : String) (s : Session σ) : Result Nat × Session σ :=
  match s.connection? id with
  | none => (.error (noObject "connection"), s)
  | some (.remote c) =>
    match c.prepare sql with
    | .error e => (.error e, s)
    | .ok p =>
      let (t, s) := s.addStatement id (.remote (.ofPrepared p))
      (.ok t, s)
  | some (.embedded database) =>
    match E.prepareStatement database sql s.engine with
    | (.error e, engine) => (.error e, { s with engine })
    | (.ok t, engine) =>
      let (t, s) := { s with engine }.addStatement id (.embedded t)
      (.ok t, s)

end SqlGateway.Session
