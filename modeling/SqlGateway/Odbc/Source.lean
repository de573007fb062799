import SqlGateway.Odbc.Client
import SqlGateway.Text.Blank

namespace SqlGateway.Odbc

inductive FailurePoint where
  | prepare
  | execute
  | fetch
deriving DecidableEq, Repr

structure Script where
  parameters : Nat := 0
  fields : List Field := []
  rows : List (List Cell) := []
  rowCount : Option UInt64 := none
  noData : Bool := false
  failure : Option (FailurePoint × Diagnostic) := none
deriving DecidableEq, Repr

structure Source where
  statements : List (String × Script) := []
  refusal : Option Diagnostic := none
deriving DecidableEq, Repr

def unknownStatement : Diagnostic := ⟨"42000", 1064, "unknown statement"⟩

def unknownColumn : Diagnostic := ⟨"07009", 0, "Invalid descriptor index"⟩

def Field.limit (max : Nat) (f : Field) : Nat :=
  if f.type.textSize = 0 then max else min f.type.textSize max

def blocksOf : List (List Cell) → List Block
  | [] => []
  | row :: rows => (row :: rows.take (blockRows - 1)) :: blocksOf (rows.drop (blockRows - 1))
termination_by rows => rows.length
decreasing_by simp only [List.length_drop, List.length_cons]; omega

def Script.fetchFailure? (s : Script) : Option Diagnostic :=
  match s.failure with
  | some (.fetch, d) => some d
  | _ => none

def Script.resultSet (s : Script) : ResultSet where
  columnCount := .ok s.fields.length
  field number :=
    match s.fields[number - 1]? with
    | some f => .ok f
    | none => .error (.diagnostic unknownColumn)
  limits max := .ok (s.fields.map (Field.limit max))
  arrivals := (blocksOf s.rows).map .ok ++
    s.fetchFailure?.toList.map fun d => .error (.fault (.diagnostic d))

def Script.opened (s : Script) : Except Fault Opened :=
  match s.failure with
  | some (.execute, d) => .error (.diagnostic d)
  | _ => .ok ⟨if s.noData ∨ s.fields = [] then none else some s.resultSet, .ok s.rowCount⟩

def Script.run (s : Script) (bound : List Value) : Option Message × Result Answer :=
  (prepared s.parameters fun _ => s.opened).run bound

/-- A text that is executed at once is prepared and run without parameters, and a rejection at
either point is one of the execution. -/
def Source.batch (source : Source) (sql : String) : Option Message × Result Stats :=
  match source.statements.lookup sql with
  | none => (none, .error (failed .execute unknownStatement))
  | some s =>
    match s.failure with
    | some (.prepare, d) => (none, .error (failed .execute d))
    | _ =>
      let (sent, answer) := s.run []
      (sent, answer.map (·.stats))

def Source.prepare (source : Source) (sql : String) : Result (Prepared Message) :=
  match source.statements.lookup sql with
  | none => .error (failed .prepare unknownStatement)
  | some s =>
    match s.failure with
    | some (.prepare, d) => .error (failed .prepare d)
    | _ => .ok ⟨s.parameters, s.run⟩

/-- The text is handed to the driver manager trimmed, and not at all if nothing is left. -/
def Source.connect (source : Source) (target : String) :
    Option Message × Result (RemoteConnection Message) :=
  let text := Text.trim target
  if text.isEmpty then
    (none, .error (.native .connection "IM002" "empty ODBC connection string"))
  else
    (some (.connect text), match source.refusal with
      | some d => .error (failed .connection d)
      | none => .ok ⟨"odbc", source.batch, source.prepare⟩)

end SqlGateway.Odbc
