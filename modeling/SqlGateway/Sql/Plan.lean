import SqlGateway.Sql.Eval

namespace SqlGateway.Sql

structure Field where
  name : String
  declared : Option String := none
  affinity : Option Affinity := none
  originName : String := ""
  originTable : String := ""
deriving Repr, Inhabited

structure OrderKey where
  key : BoundExpr
  descending : Bool

structure OuterJoin where
  condition : Option BoundExpr

mutual

inductive QueryPlan where
  | values (rows : List (List BoundExpr))
  | select (s : SelectPlan)

structure SelectPlan where
  sources : List SourcePlan
  condition : Option BoundExpr
  results : List BoundExpr
  distinct : Bool
  aggregate : Bool
  order : List OrderKey
  limit : Option BoundExpr
  offset : Option BoundExpr

inductive SourcePlan where
  | table (name : String) (backwards : Bool) (join : Option OuterJoin)
  | derived (q : QueryPlan) (join : Option OuterJoin)

end

instance : Inhabited QueryPlan := ⟨.values []⟩

/-- A source with its rows, each under a key that tells its place among them. -/
structure Loop where
  rows : List (Int × Except Failure Cells)
  backwards : Bool := false
  join : Option OuterJoin := none

/-- The key of each source's row; the row that stands for a missing partner has none. -/
abbrev Place := List (Option Int)

def Place.precedes : List Loop → Place → Place → Bool
  | l :: ls, k :: ks, k' :: ks' =>
    if k = k' then precedes ls ks ks'
    else match k, k' with
      | some k, some k' => if l.backwards then k' < k else k < k'
      | some _, none => true
      | none, _ => false
  | _, _, _ => false

/-- Every combination of rows that passes the joins, with the result of the test on it. -/
def combine {β : Type} (f : Frame) (test : Standing → Except Failure (Option β)) :
    List Loop → Standing → List (Place × Except Failure β)
  | [], rows =>
    match test rows with
    | .ok (some b) => [([], .ok b)]
    | .ok none => []
    | .error e => [([], .error e)]
  | l :: ls, rows =>
    let at_ (key : Option Int) (cells : Cells) : List (Place × Except Failure β) :=
      (combine f test ls (rows ++ [cells])).map fun (place, r) => (key :: place, r)
    let partners := l.rows.filter fun (_, row) =>
      match l.join, row with
      | some join, .ok cells =>
        (match Expr.holds f (rows ++ [cells]) join.condition with
          | .ok false => false
          | _ => true)
      | _, _ => true
    if l.join.isSome ∧ partners.isEmpty then at_ none []
    else partners.flatMap fun (key, row) =>
      match row with
      | .ok cells => at_ (some key) cells
      | .error e => [([some key], .error e)]

def untilFailure {β : Type} : List (Except Failure β) → Except Failure (List β)
  | [] => .ok []
  | .error e :: _ => .error e
  | .ok b :: rest => (untilFailure rest).map (b :: ·)

def compareKeys : List Bool → List Datum → List Datum → Ordering
  | descending :: ds, a :: as, b :: bs =>
    match a.order b with
    | .eq => compareKeys ds as bs
    | o => if descending then o.swap else o
  | _, _, _ => .eq

def distinctRows (seen : List Cells) :
    List (Except Failure (Cells × List Datum)) → List (Except Failure (Cells × List Datum))
  | [] => []
  | .error e :: _ => [.error e]
  | .ok (cells, keys) :: rest =>
    let equal (other : Cells) : Bool :=
      other.length = cells.length && (cells.zip other).all fun (a, b) => a.order b == .eq
    if seen.any equal then distinctRows seen rest
    else .ok (cells, keys) :: distinctRows (cells :: seen) rest

def limitNumber (f : Frame) (e : BoundExpr) : Except Failure Int :=
  (Expr.eval f [] e).bind fun d =>
    match Datum.store .integer d with
    | .integer n => .ok n.toInt
    | _ => .error .datatypeMismatch

def limits (f : Frame) (s : SelectPlan) : Except Failure (Nat × Option Nat) := do
  let left ← match s.limit with
    | none => pure none
    | some e => do
      let n ← limitNumber f e
      pure (if n < 0 then none else some n.toNat)
  let passed ← match s.offset with
    | none => pure 0
    | some e => do pure (← limitNumber f e).toNat
  return (passed, left)

def cut {β : Type} (passed : Nat) (left : Option Nat) (rows : List β) : List β :=
  let rows := rows.drop passed
  match left with
  | some n => rows.take n
  | none => rows

namespace SelectPlan

def test (s : SelectPlan) (f : Frame) (rows : Standing) :
    Except Failure (Option (Cells × List Datum)) := do
  if ← Expr.holds f rows s.condition then
    let cells ← Expr.evalAll f rows s.results
    let keys ← Expr.evalAll f rows (s.order.map (·.key))
    return some (cells, keys)
  return none

/-- The one row of an aggregate. Columns outside of it read from the last row. -/
def aggregateRow (s : SelectPlan) (f : Frame) (loops : List Loop) : Except Failure Cells := do
  let group ← untilFailure ((combine f
    (fun rows => (Expr.holds f rows s.condition).map fun met => if met then some rows else none)
    loops []).map (·.2))
  Expr.evalAll { f with group } (group.getLastD []) s.results

/-- All rows in order. A row fails at its place, unless the order needs all rows first. -/
def rowsOver (s : SelectPlan) (f : Frame) (loops : List Loop) : List (Except Failure Cells) :=
  match limits f s with
  | .error e => [.error e]
  | .ok (passed, left) =>
    if s.aggregate then cut passed left [s.aggregateRow f loops]
    else
      let rows := (combine f (s.test f) loops []).map (·.2)
      let rows := if s.distinct then distinctRows [] rows else rows
      if s.order.isEmpty then cut passed left (rows.map fun r => r.map (·.1))
      else
        match untilFailure rows with
        | .error e => [.error e]
        | .ok rows =>
          let sorted := rows.mergeSort fun a b =>
            compareKeys (s.order.map (·.descending)) a.2 b.2 != .gt
          cut passed left (sorted.map fun r => .ok r.1)

end SelectPlan

mutual

def QueryPlan.rows (c : Content) (f : Frame) : QueryPlan → List (Except Failure Cells)
  | .values rows => rows.map (Expr.evalAll f [])
  | .select s => SelectPlan.rows c f s

def SelectPlan.rows (c : Content) (f : Frame) : SelectPlan → List (Except Failure Cells)
  | .mk sources condition results distinct aggregate order limit offset =>
    SelectPlan.rowsOver ⟨sources, condition, results, distinct, aggregate, order, limit, offset⟩ f
      (loopsOf c f sources)

def loopsOf (c : Content) (f : Frame) : List SourcePlan → List Loop
  | [] => []
  | p :: ps => loopOf c f p :: loopsOf c f ps

def loopOf (c : Content) (f : Frame) : SourcePlan → Loop
  | .table name backwards join =>
    let rows := match c.table? name with
      | some t => t.rows.map fun (rowid, cells) => (rowid, .ok (Table.visible rowid cells))
      | none => []
    ⟨if backwards then rows.reverse else rows, backwards, join⟩
  | .derived q join =>
    ⟨(QueryPlan.rows c f q).zipIdx.map fun (row, i) => ((i : Int), row), false, join⟩

end

def SelectPlan.seek (s : SelectPlan) (c : Content) (f : Frame) (after : Option Place) :
    Option (Place × Except Failure Cells) :=
  let loops := loopsOf c f s.sources
  let found := (combine f (s.test f) loops []).find? fun (place, _) =>
    match after with
    | none => true
    | some after => Place.precedes loops after place
  found.map fun (place, r) => (place, r.map (·.1))

end SqlGateway.Sql
