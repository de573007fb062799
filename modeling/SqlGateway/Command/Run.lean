import SqlGateway.Command.Log
import SqlGateway.Command.Printed
import SqlGateway.Config.Load
import SqlGateway.Session.Cursor

namespace SqlGateway.Command

/-- What is at hand: the contents of files, and the milliseconds that opening a connection takes. -/
structure Surroundings where
  file : String → Option Text.Utf8.Bytes
  elapsed : Nat := 0

structure Outcome where
  exitCode : UInt8
  output : String
  log : List LogLine := []
  report : String := ""
deriving DecidableEq, Repr

variable {σ : Type} (E : Sqlite.Engine σ)

def drivers : List (Driver (Session σ) Nat) :=
  [Session.sqlite E, Session.postgresql, Session.mariadb]

def catalog : Catalog (Session σ) Nat := Session.catalogOf (drivers E)

/-- Opens the URL of the command line, or else the profile that it names or the default one. -/
def openConnection (i : Invocation) (config : Option Config) (s : Session σ) :
    Result Nat × Session σ :=
  match i.url, config with
  | some url, _ => (catalog E).require url s
  | none, none => (.error (.config "no connection given: pass --url or --config"), s)
  | none, some config =>
    match config.profile i.connection with
    | .error e => (.error e, s)
    | .ok p => (catalog E).openWith (Session.execute E) p.url p.init s

/-- Binds parameters by position and then by name, up to the first that fails. -/
def bindAll (statement : Nat) (q : Query) (s : Session σ) : Result Unit × Session σ :=
  let step (bind : String → Session σ → Result Unit × Session σ) (r : Result Unit × Session σ)
      (text : String) : Result Unit × Session σ :=
    match r with
    | (.ok (), s) => bind text s
    | failed => failed
  let positional (r : Result Unit × Session σ) (item : String × Nat) : Result Unit × Session σ :=
    step (fun text s => match Parameter.read text with
      | .error e => (.error e, s)
      | .ok v => Session.bind E statement (item.2 + 1) v s) r item.1
  let named (text : String) (s : Session σ) : Result Unit × Session σ :=
    match Parameter.readNamed text with
    | .error e => (.error e, s)
    | .ok (name, v) => Session.bindNamed E statement name v s
  q.namedParameters.foldl (step named) (q.parameters.zipIdx.foldl positional (.ok (), s))

def printRows (statement : Nat) (mode : Mode) (limit : Option Nat) (style : OutputStyle)
    (s : Session σ) : Result Nat × String × Session σ :=
  let printer (columns : Columns) : Printer := ⟨style, columns.names⟩
  match mode with
  | .buffered =>
    match Session.runBuffered E statement s with
    | (.error e, s) => (.error e, "", s)
    | (.ok b, s) =>
      let out := Printed.ofRows (printer b.columns) limit b.rows
      (.ok out.count, out.text, s)
  | _ =>
    match Session.run E statement s with
    | (.error e, s) => (.error e, "", s)
    | (.ok c, s) =>
      let p := printer (Session.columns c s)
      let (r, text, s) :=
        if mode = .cursor then Printed.byCursor (Session.feed E c) p limit s
        else Printed.byCallback (Session.feed E c) p limit s
      (r, text, Session.dropCursor E c s)

def query (connection : Nat) (q : Query) (style : OutputStyle) (s : Session σ) :
    Result Nat × String × Session σ :=
  match Session.prepare E connection q.sql s with
  | (.error e, s) => (.error e, "", s)
  | (.ok t, s) =>
    match bindAll E t q s with
    | (.error e, s) => (.error e, "", s)
    | (.ok (), s) => printRows E t q.mode q.limit style s

def onConnection (task : Task) (style : OutputStyle) (elapsed connection : Nat) (s : Session σ) :
    Result Unit × String × Session σ :=
  match task with
  | .query q =>
    let style := match q.format with
      | some format => { style with format }
      | none => style
    let (r, text, s) := query E connection q style s
    (r.map fun _ => (), text, s)
  | .exec sql =>
    match Session.execute E connection sql s with
    | (.error e, s) => (.error e, "", s)
    | (.ok stats, s) =>
      (.ok (), Printer.line ("Affected rows: " ++ toString stats.affectedRows.toNat)
        ++ Printer.line ("Last insert id: " ++ toString stats.lastInsertId.toNat), s)
  | .drivers => (.ok (), "", s)
  | .healthCheck =>
    let driver := ((s.connection? connection).map (·.driver)).getD ""
    (.ok (), Printer.line ("Connection OK: " ++ driver ++ " (" ++ toString elapsed ++ "ms)"), s)

def listDrivers : String :=
  String.join ((catalog E).drivers.map fun (name, schemes) =>
    Printer.line (name ++ ": " ++ ", ".intercalate schemes))

def outcome (level : Level) (log : List LogLine) (output : String) (r : Result Unit) : Outcome :=
  match r with
  | .ok () => ⟨0, output, shown level log, ""⟩
  | .error e => ⟨e.exitCode, output, shown level log, e.report ++ "\n"⟩

def carryOut (i : Invocation) (around : Surroundings) (s : Session σ) : Outcome × Session σ :=
  match Level.ofVerbosity i.verbosity with
  | .error e => (outcome .error [] "" (.error e), s)
  | .ok level =>
    match i.config.mapM fun path => Config.load (around.file path) with
    | .error e => (outcome level [] "" (.error e), s)
    | .ok config =>
      let log := match i.config with
        | some path => [⟨.info, "Loaded configuration from " ++ Text.quoted path⟩]
        | none => []
      if i.task = .drivers then (outcome level log (listDrivers E) (.ok ()), s)
      else
        let hasProfile := (config.map fun c => (c.profile i.connection).toOption.isSome).getD false
        let hasTarget := i.url.isSome || hasProfile
        let log := if hasTarget then log ++ [⟨.debug, "Opening a connection"⟩] else log
        match openConnection E i config s with
        | (.error e, s) => (outcome level log "" (.error e), s)
        | (.ok connection, s) =>
          let style := (config.map (·.output)).getD {}
          let (r, text, s) := onConnection E i.task style around.elapsed connection s
          (outcome level log text r, s)

def versionText : String := "polysql 0.1.0\n"

def helpText : String := "Usage: polysql [OPTIONS] <query|exec|drivers|health-check>\n"

/-- The configuration is read and checked first, whatever the command, and a connection is opened
for the commands that need one. -/
def run (args : List String) (around : Surroundings) (s : Session σ) : Outcome × Session σ :=
  match Invocation.ofArguments args with
  | .error (.usage reason) => (⟨2, "", [], "error: " ++ reason ++ "\n\n" ++ helpText⟩, s)
  | .error .help => (⟨0, helpText, [], ""⟩, s)
  | .error .version => (⟨0, versionText, [], ""⟩, s)
  | .ok i => carryOut E i around s

end SqlGateway.Command
