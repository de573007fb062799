import SqlGateway.Sql.Arithmetic
import SqlGateway.Sql.Table

namespace SqlGateway.Sql

/-- One row per source; a row that is missing reads as null. -/
abbrev Standing := List Cells

structure Frame where
  parameters : List Datum
  group : List Standing := []

namespace Expr

def affinity? : BoundExpr → Option Affinity
  | ref s => some s.affinity
  | _ => none

def cell (rows : Standing) (s : Slot) : Datum := ((rows.getD s.source [])).getD s.column .null

mutual

def eval (f : Frame) (rows : Standing) : BoundExpr → Except Failure Datum
  | literal d => .ok d
  | parameter n => .ok (f.parameters.getD (n - 1) .null)
  | ref s => .ok (cell rows s)
  | unary op e => (eval f rows e).map (Datum.unary op)
  | binary op a b =>
    match eval f rows a with
    | .error e => .error e
    | .ok x =>
      match op, x.truth with
      | .and, some false => .ok (.ofBool false)
      | .or, some true => .ok (.ofBool true)
      | _, _ =>
        (eval f rows b).map (Datum.binary op (Datum.comparisonAffinity a.affinity? b.affinity?) x)
  | call .abs args => (evalAll f rows args).bind fun ds => Datum.abs (ds.headD .null)
  | call .length args => (evalAll f rows args).map fun ds => Datum.length (ds.headD .null)
  | call .typeof args => (evalAll f rows args).map fun ds => .ofText (ds.headD .null).typeName
  | call .char args => (evalAll f rows args).map Datum.char
  | call .count args =>
    (f.group.foldlM (fun (n : Int) rows =>
      (evalAll f rows args).map fun ds => if ds.any (·.isNull) then n else n + 1) 0).map
      fun n => .integer (Int64.ofInt n)

def evalAll (f : Frame) (rows : Standing) : List BoundExpr → Except Failure (List Datum)
  | [] => .ok []
  | e :: es =>
    match eval f rows e with
    | .error failure => .error failure
    | .ok d => (evalAll f rows es).map (d :: ·)

end

def holds (f : Frame) (rows : Standing) : Option BoundExpr → Except Failure Bool
  | none => .ok true
  | some e => (eval f rows e).map fun d => d.truth = some true

mutual

def countsRows : BoundExpr → Bool
  | literal _ | parameter _ | ref _ => false
  | unary _ e => countsRows e
  | binary _ a b => countsRows a || countsRows b
  | call .count _ => true
  | call _ args => anyCountsRows args

def anyCountsRows : List BoundExpr → Bool
  | [] => false
  | e :: es => countsRows e || anyCountsRows es

end

end Expr
end SqlGateway.Sql
