import SqlGateway.Sql.Definition

namespace SqlGateway.Sql

inductive Action where
  | query (q : QueryPlan)
  | insert (p : InsertPlan)
  | update (p : UpdatePlan)
  | delete (p : DeletePlan)
  | define
  | transaction

structure Resolved where
  fields : List Field := []
  action : Action

def define (c : Content) : Statement → Except Failure Content
  | .createTable s => createTable c s
  | .createView s => createView c s
  | .createIndex s => do
    match ← resolveIndex c s with
    | some (t, i) => addIndex c t i
    | none => return c
  | .addColumn name column => do
    let (t, extended) ← addColumn c name column
    return c.setTable (← fillColumn t extended)
  | .drop kind ifPresent name => dropObject c kind ifPresent name
  | _ => .ok c

def checkDefinition (c : Content) : Statement → Except Failure Unit
  | .createIndex s => do let _ ← resolveIndex c s
  | .addColumn name column => do let _ ← addColumn c name column
  | s => do let _ ← define c s

def resolveStatement (c : Content) (s : Statement) : Except Failure Resolved :=
  match s with
  | .query q => (resolveQuery c maxDepth q).map fun q => ⟨q.fields, .query q.plan⟩
  | .insert s => (resolveInsert c s).map fun (fields, p) => ⟨fields, .insert p⟩
  | .update s => (resolveUpdate c s).map fun (fields, p) => ⟨fields, .update p⟩
  | .delete s => (resolveDelete c s).map fun (fields, p) => ⟨fields, .delete p⟩
  | .createTable _ | .createIndex _ | .createView _ | .addColumn _ _ | .drop _ _ _ =>
    (checkDefinition c s).map fun () => ⟨[], .define⟩
  | _ => .ok ⟨[], .transaction⟩

mutual

def QueryPlan.readsTables : QueryPlan → Bool
  | .values _ => false
  | .select s => SelectPlan.readsTables s

def SelectPlan.readsTables : SelectPlan → Bool
  | .mk sources .. => anyReadsTables sources

def anyReadsTables : List SourcePlan → Bool
  | [] => false
  | p :: ps => SourcePlan.readsTables p || anyReadsTables ps

def SourcePlan.readsTables : SourcePlan → Bool
  | .table .. => true
  | .derived q _ => QueryPlan.readsTables q

end

inductive Access where
  | none
  | read
  | write
deriving DecidableEq, Repr

def Action.access : Action → Access
  | query q => if q.readsTables then .read else .none
  | insert _ | update _ | delete _ | define => .write
  | transaction => .none

def Action.countsChanges : Action → Bool
  | insert _ | update _ | delete _ => true
  | _ => false

def Statement.namesObjects : Statement → Bool
  | .query (.values _) => false
  | .query (.select _ _ sources ..) => !sources.isEmpty
  | .begin _ | .commit | .rollback | .savepoint _ | .release _ | .rollbackTo _ => false
  | _ => true

/-- Rows that a running statement still has to show. -/
inductive Pending where
  | scan (s : SelectPlan) (after : Option Place) (left : Option Nat)
  | listed (rows : List (Except Failure Cells))

namespace Pending

/-- Rows are found one by one unless something asks for all of them first. -/
def ofQuery (c : Content) (f : Frame) : QueryPlan → Pending
  | .values rows => listed (rows.map (Expr.evalAll f []))
  | .select s =>
    if s.order.isEmpty ∧ !s.distinct ∧ !s.aggregate ∧ s.offset.isNone then
      match limits f s with
      | .ok (_, left) => scan s none left
      | .error failure => listed [.error failure]
    else listed (SelectPlan.rows c f s)

def next (c : Content) (f : Frame) : Pending → Option (Except Failure Cells × Pending)
  | listed [] => none
  | listed (row :: rows) => some (row, listed rows)
  | scan s after left =>
    if left = some 0 then none
    else (s.seek c f after).map fun (place, row) =>
      (row, scan s (some place) (left.map (· - 1)))

end Pending
end SqlGateway.Sql
