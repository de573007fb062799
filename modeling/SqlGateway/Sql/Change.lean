import SqlGateway.Sql.Resolve

namespace SqlGateway.Sql

structure Rules where
  defaults : List BoundExpr
  checks : List (String × BoundExpr)

def resolveRules (t : Table) : Except Failure Rules := do
  let scope : Scope := ⟨[tableScope t t.name], []⟩
  let defaults ← t.columns.mapM fun c =>
    match c.default with
    | some e => resolve {} false e
    | none => pure (.literal .null)
  let checks ← t.checks.mapM fun c => do return (c.text, ← resolve scope false c.condition)
  return ⟨defaults, checks⟩

def Rules.default (r : Rules) (f : Frame) (column : Nat) : Except Failure Datum :=
  match r.defaults[column]? with
  | some e => Expr.eval f [] e
  | none => .ok .null

def refuse {α : Type} (conflict : Conflict) (failure : Failure) : Except Failure (Option α) :=
  if conflict = .ignore then .ok none else .error failure

/-- Puts defaults in place of forbidden nulls where the statement replaces. -/
def fillNulls (t : Table) (r : Rules) (f : Frame) (conflict : Conflict) :
    Nat → Cells → Except Failure (Option Cells)
  | _, [] => .ok (some [])
  | i, d :: cells =>
    let rest (d : Datum) : Except Failure (Option Cells) :=
      (fillNulls t r f conflict (i + 1) cells).map fun cells => cells.map (d :: ·)
    let forbidden := match t.columns[i]? with
      | some c => c.notNull && t.rowidColumn ≠ some i
      | none => false
    if d.isNull && forbidden then
      if conflict = .replace then
        (r.default f i).bind fun d =>
          if d.isNull then .error (.notNull (t.qualified i)) else rest d
      else refuse conflict (.notNull (t.qualified i))
    else rest d

/-- The first condition that the row does not meet. Unknown counts as met. -/
def brokenCheck? (f : Frame) (row : Cells) :
    List (String × BoundExpr) → Except Failure (Option Failure)
  | [] => .ok none
  | (text, e) :: rest =>
    (Expr.eval f [row] e).bind fun d =>
      if d.truth = some false then .ok (some (.check text)) else brokenCheck? f row rest

def keyValues (k : Key) (cells : Cells) : List Datum := k.columns.map fun i => cells.getD i .null

def repeatedKey? (t : Table) (own : Option Int) (k : Key) (cells : Cells) : Option Int :=
  let values := keyValues k cells
  if values.any (·.isNull) then none
  else
    let equal (other : Cells) := (values.zip (keyValues k other)).all fun (a, b) => a.order b == .eq
    (t.rows.find? fun (rowid, other) => some rowid ≠ own && equal other).map (·.1)

/-- Settles a repeated value: the other row goes, or the new one is refused. -/
def settle (t : Table) (conflict : Conflict) (other : Int) (failure : Failure) :
    Except Failure (Option Table) :=
  if conflict = .replace then .ok (some (t.erase other)) else refuse conflict failure

def settleKeys (own : Option Int) (conflict : Conflict) (cells : Cells) :
    Table → List Key → Except Failure (Option Table)
  | t, [] => .ok (some t)
  | t, k :: ks =>
    match repeatedKey? t own k cells with
    | none => settleKeys own conflict cells t ks
    | some other =>
      let failure := .repeated (if k.primary then .primary else .unique) (k.columns.map t.qualified)
      match settle t conflict other failure with
      | .ok (some t) => settleKeys own conflict cells t ks
      | r => r

def settleRowid (t : Table) (own : Option Int) (conflict : Conflict) (rowid : Int) :
    Except Failure (Option Table) :=
  if own = some rowid ∨ (t.row? rowid).isNone then .ok (some t)
  else
    settle t conflict rowid (match t.rowidColumn with
      | some i => .repeated .primary [t.qualified i]
      | none => .repeated .rowid [t.name ++ ".rowid"])

def storedCells (t : Table) (cells : Cells) : Cells :=
  (t.columns.zip cells).map fun (c, d) => Datum.store c.affinity d

/-- Admits a row under a number, instead of the row `own` if there is one. Values that must not be
null are looked at first, then the conditions, the row number and the keys. Nothing comes of a row
that the statement ignores. -/
def accept (t : Table) (r : Rules) (f : Frame) (conflict : Conflict) (own : Option Int)
    (rowid : Int) (cells : Cells) : Except Failure (Option (Table × Cells)) := do
  let some cells ← fillNulls t r f conflict 0 cells | return none
  let cells := storedCells t cells
  let cells := match t.rowidColumn with
    | some i => cells.set i (.integer (Int64.ofInt rowid))
    | none => cells
  if let some failure ← brokenCheck? f (Table.visible rowid cells) r.checks then
    return ← (if conflict = .ignore then pure none else throw failure)
  let some t ← settleRowid t own conflict rowid | return none
  let some t ← settleKeys own conflict cells t t.keys | return none
  let t := match own with
    | some old => t.erase old
    | none => t
  return some (t.put rowid cells, cells)

structure InsertPlan where
  table : String
  conflict : Conflict
  rules : Rules
  targets : List Nat
  rows : Option QueryPlan
  returning : List BoundExpr

structure UpdatePlan where
  table : String
  conflict : Conflict
  rules : Rules
  assignments : List (Nat × BoundExpr)
  condition : Option BoundExpr
  returning : List BoundExpr

structure DeletePlan where
  table : String
  condition : Option BoundExpr
  returning : List BoundExpr

def changedTable (c : Content) (name : TableName) : Except Failure Table :=
  if !name.known then .error name.missing
  else match c.table? name.name, c.view? name.name with
    | some t, _ => .ok t
    | none, some v => .error (.viewChanged v.name)
    | none, none => .error name.missing

def target? (t : Table) (column : String) : Option Nat :=
  match t.columnIndex? column with
  | some i => some i
  | none => if Scope.isRowidName column then some (t.rowidColumn.getD t.columns.length) else none

def resolveReturning (t : Table) (items : List ResultItem) :
    Except Failure (List Field × List BoundExpr) := do
  let results ← resolveItems ⟨[tableScope t t.name], []⟩ false items
  return (results.map (·.1), results.map (·.2))

def resolveInsert (c : Content) (s : Insert) : Except Failure (List Field × InsertPlan) := do
  let t ← changedTable c s.table
  let named ← s.columns.mapM fun column =>
    match target? t column with
    | some i => pure i
    | none => throw (.noColumn t.name column)
  let targets := if s.columns.isEmpty then List.range t.columns.length else named
  let rows ← match s.source with
    | .defaults => pure none
    | .rows q => do
      let q ← resolveQuery c maxDepth q
      let values := q.fields.length
      if values ≠ targets.length then
        throw (if s.columns.isEmpty then .columnCount t.name t.columns.length values
          else .valueCount values targets.length)
      pure (some q.plan)
  let rules ← resolveRules t
  let (fields, returning) ← resolveReturning t s.returning
  return (fields, ⟨t.name, s.conflict, rules, targets, rows, returning⟩)

def resolveUpdate (c : Content) (s : Update) : Except Failure (List Field × UpdatePlan) := do
  let t ← changedTable c s.table
  let scope : Scope := ⟨[tableScope t t.name], []⟩
  let assignments ← s.assignments.mapM fun (column, e) => do
    let e ← resolve scope false e
    match target? t column with
    | some i => pure (i, e)
    | none => throw (.noSuch .column column)
  let condition ← resolve? scope false s.condition
  let rules ← resolveRules t
  let (fields, returning) ← resolveReturning t s.returning
  return (fields, ⟨t.name, s.conflict, rules, assignments, condition, returning⟩)

def resolveDelete (c : Content) (s : Delete) : Except Failure (List Field × DeletePlan) := do
  let t ← changedTable c s.table
  let condition ← resolve? ⟨[tableScope t t.name], []⟩ false s.condition
  let (fields, returning) ← resolveReturning t s.returning
  return (fields, ⟨t.name, condition, returning⟩)

structure Progress where
  table : Table
  changes : Nat := 0
  lastRowid : Option Int := none
  returned : List Cells := []

def Progress.each {α : Type} (step : Progress → α → Except Failure Progress) :
    List α → Progress → Option Failure × Progress
  | [], p => (none, p)
  | a :: rest, p =>
    match step p a with
    | .ok p => each step rest p
    | .error failure => (some failure, p)

def rowidOf (d : Datum) : Except Failure Int :=
  match Datum.store .integer d with
  | .integer n => .ok n.toInt
  | _ => .error .datatypeMismatch

def returnedRow (f : Frame) (returning : List BoundExpr) (rowid : Int) (cells : Cells) :
    Except Failure (List Cells) :=
  if returning.isEmpty then .ok []
  else (Expr.evalAll f [Table.visible rowid cells] returning).map ([·])

def InsertPlan.insert (s : InsertPlan) (f : Frame) (p : Progress) (row : Except Failure Cells) :
    Except Failure Progress := do
  let values ← row
  let t := p.table
  let given (i : Nat) : Option Datum := (s.targets.zip values).lookup i
  let cells ← (List.range t.columns.length).mapM fun i =>
    match given i with
    | some d => pure d
    | none => if t.rowidColumn = some i then pure .null else s.rules.default f i
  let rowid ← match given (t.rowidColumn.getD t.columns.length) with
    | none | some .null => pure t.nextRowid
    | some d => rowidOf d
  match ← accept t s.rules f s.conflict none rowid cells with
  | none => return p
  | some (t, cells) =>
    return ⟨t, p.changes + 1, some rowid, p.returned ++ (← returnedRow f s.returning rowid cells)⟩

def InsertPlan.run (s : InsertPlan) (c : Content) (t : Table) (f : Frame) :
    Option Failure × Progress :=
  Progress.each (s.insert f) (match s.rows with
    | some q => q.rows c f
    | none => [.ok []]) { table := t }

def matchingRows (t : Table) (f : Frame) (condition : Option BoundExpr) :
    Except Failure (List Int) := do
  let found ← t.rows.mapM fun (rowid, cells) => do
    return (rowid, ← Expr.holds f [Table.visible rowid cells] condition)
  return (found.filter (·.2)).map (·.1)

def UpdatePlan.update (s : UpdatePlan) (f : Frame) (p : Progress) (old : Int) :
    Except Failure Progress := do
  let t := p.table
  match t.row? old with
  | none => return p
  | some cells =>
    let values ← s.assignments.mapM fun (i, e) => do
      return (i, ← Expr.eval f [Table.visible old cells] e)
    let rowid ← match values.reverse.lookup (t.rowidColumn.getD t.columns.length) with
      | some d => rowidOf d
      | none => pure old
    let cells := values.foldl (fun cells (i, d) => cells.set i d) cells
    match ← accept t s.rules f s.conflict (some old) rowid cells with
    | none => return p
    | some (t, cells) =>
      return { p with
        table := t, changes := p.changes + 1
        returned := p.returned ++ (← returnedRow f s.returning rowid cells) }

def UpdatePlan.run (s : UpdatePlan) (t : Table) (f : Frame) : Option Failure × Progress :=
  match matchingRows t f s.condition with
  | .error failure => (some failure, { table := t })
  | .ok rowids => Progress.each (s.update f) rowids { table := t }

def DeletePlan.delete (s : DeletePlan) (f : Frame) (p : Progress) (rowid : Int) :
    Except Failure Progress := do
  match p.table.row? rowid with
  | none => return p
  | some cells =>
    return { p with
      table := p.table.erase rowid, changes := p.changes + 1
      returned := p.returned ++ (← returnedRow f s.returning rowid cells) }

def DeletePlan.run (s : DeletePlan) (t : Table) (f : Frame) : Option Failure × Progress :=
  match matchingRows t f s.condition with
  | .error failure => (some failure, { table := t })
  | .ok rowids => Progress.each (s.delete f) rowids { table := t }

end SqlGateway.Sql
