import SqlGateway.Sql.Change

namespace SqlGateway.Sql

def Content.kindOf? (c : Content) (name : String) : Option ObjectKind :=
  if (c.table? name).isSome then some .table
  else if (c.view? name).isSome then some .view
  else if (c.index? name).isSome then some .index
  else none

def checkName (name : String) : Except Failure Unit :=
  if (Text.lowerText name).startsWith "sqlite_" then .error (.reservedName name) else .ok ()

def isNew (c : Content) (name : String) (ifAbsent : Bool) : Except Failure Bool :=
  match c.kindOf? name with
  | none => .ok true
  | some .index => .error (.nameTaken .index name)
  | some kind => if ifAbsent then .ok false else .error (.alreadyExists kind name)

/-- A column named `INTEGER` as a whole that is the only key is the row number. -/
def isRowidType (c : ColumnRule) : Bool :=
  match c.declared with
  | some declared => Text.lowerText declared == "integer"
  | none => false

def addPrimaryKey (t : Table) (hasKey : Bool) (columns : List Nat)
    (descending autoincrement : Bool) :
    Except Failure Table := do
  if hasKey then throw (.secondPrimaryKey t.name)
  match columns with
  | [i] =>
    if ((t.columns[i]?).map isRowidType).getD false && !descending then
      return { t with rowidColumn := some i, autoincrement }
  | _ => pure ()
  if autoincrement then throw .badAutoincrement
  return { t with keys := { columns, primary := true } :: t.keys }

def addUnique (t : Table) (columns : List Nat) (index : Option String) : Table :=
  if t.keys.any (·.columns = columns) ∧ index.isNone then t
  else { t with keys := { columns, index } :: t.keys }

def changeColumn (t : Table) (i : Nat) (change : ColumnRule → ColumnRule) : Table :=
  { t with columns := t.columns.modify i change }

abbrev Draft := Table × Bool

def addColumnConstraint (i : Nat) (d : Draft) (given : Option String × ColumnConstraint) :
    Except Failure Draft := do
  let (t, hasKey) := d
  match given.2 with
  | .primaryKey descending autoincrement =>
    return (← addPrimaryKey t hasKey [i] descending autoincrement, true)
  | .notNull => return (changeColumn t i fun c => { c with notNull := true }, hasKey)
  | .unique => return (addUnique t [i] none, hasKey)
  | .check e text => return ({ t with checks := t.checks ++ [⟨given.1.getD text, e⟩] }, hasKey)
  | .default e => return (changeColumn t i fun c => { c with default := some e }, hasKey)
  | .unenforced => return d

def addColumnRule (d : Draft) (c : ColumnDefinition) : Except Failure Draft := do
  let (t, hasKey) := d
  if (t.columnIndex? c.name).isSome then throw (.duplicateColumn c.name)
  let t := { t with columns := t.columns ++ [{ name := c.name, declared := c.declared }] }
  c.constraints.foldlM (addColumnConstraint (t.columns.length - 1)) (t, hasKey)

def columnsOf (t : Table) (names : List String) : Except Failure (List Nat) :=
  names.mapM fun name =>
    match t.columnIndex? name with
    | some i => .ok i
    | none => .error (.noSuch .column name)

def addTableConstraint (d : Draft) (given : Option String × TableConstraint) :
    Except Failure Draft := do
  let (t, hasKey) := d
  match given.2 with
  | .primaryKey names => return (← addPrimaryKey t hasKey (← columnsOf t names) false false, true)
  | .unique names => return (addUnique t (← columnsOf t names) none, hasKey)
  | .check e text => return ({ t with checks := t.checks ++ [⟨given.1.getD text, e⟩] }, hasKey)

def createTable (c : Content) (s : CreateTable) : Except Failure Content := do
  checkName s.name.name
  unless ← isNew c s.name.name s.ifAbsent do return c
  let d ← s.columns.foldlM addColumnRule (⟨s.name.name, [], none, [], [], false, 0, []⟩, false)
  let (t, _) ← s.constraints.foldlM addTableConstraint d
  let _ ← resolveRules t
  return { c with tables := c.tables ++ [t] }

def columnDefault (rule : ColumnRule) : Except Failure Datum := do
  match rule.default with
  | none => return .null
  | some e => return Datum.store rule.affinity (← Expr.eval ⟨[], []⟩ [] (← resolve {} false e))

/-- The table with a new column. Rows that are there already limit what can be added. -/
def extendTable (t : Table) (column : ColumnDefinition) : Except Failure Table := do
  let (extended, hasKey) ← addColumnRule ({ t with rows := [] }, false)  column
  if hasKey then throw (.cannotAdd .primaryKey)
  if extended.keys.length ≠ t.keys.length then throw (.cannotAdd .unique)
  let _ ← resolveRules extended
  return extended

def fillColumn (t extended : Table) : Except Failure Table := do
  match extended.columns.getLast? with
  | none => return extended
  | some rule =>
    let d ← columnDefault rule
    if rule.notNull && d.isNull && !t.rows.isEmpty then throw (.cannotAdd .notNullWithoutDefault)
    return { extended with rows := t.rows.map fun (rowid, cells) => (rowid, cells ++ [d]) }

def addColumn (c : Content) (name : TableName) (column : ColumnDefinition) :
    Except Failure (Table × Table) := do
  if !name.known then throw name.missing
  match c.table? name.name, c.view? name.name with
  | some t, _ => return (t, ← extendTable t column)
  | none, some _ => throw .viewExtended
  | none, none => throw name.missing

def createView (c : Content) (s : CreateView) : Except Failure Content := do
  checkName s.name.name
  unless ← isNew c s.name.name s.ifAbsent do return c
  return { c with views := c.views ++ [⟨s.name.name, s.columns, s.query⟩] }

def resolveIndex (c : Content) (s : CreateIndex) : Except Failure (Option (Table × Index)) := do
  let t ← match c.table? s.table, c.view? s.table with
    | some t, _ => pure t
    | none, some _ => throw .viewIndexed
    | none, none => throw (.noSuch .table ("main." ++ s.table))
  checkName s.name.name
  match c.kindOf? s.name.name with
  | some .index =>
    if s.ifAbsent then return none else throw (.alreadyExists .index s.name.name)
  | some kind => throw (.nameTaken kind s.name.name)
  | none => return some (t, ⟨s.name.name, t.name, ← columnsOf t s.columns, s.unique⟩)

def hasRepeated (t : Table) (k : Key) : Bool :=
  t.rows.any fun (rowid, cells) => (repeatedKey? t (some rowid) k cells).isSome

/-- Adds an index; a unique one is a key of its table from then on. -/
def addIndex (c : Content) (t : Table) (i : Index) : Except Failure Content := do
  let c := { c with indexes := c.indexes ++ [i] }
  if !i.unique then return c
  let k : Key := { columns := i.columns, index := some i.name }
  if hasRepeated t k then throw (.repeated .unique (i.columns.map t.qualified))
  return c.setTable { t with keys := k :: t.keys }

def dropTable (c : Content) (name : String) : Content :=
  { c with
    tables := c.tables.filter fun t => !sameName t.name name
    indexes := c.indexes.filter fun i => !sameName i.table name }

def dropView (c : Content) (name : String) : Content :=
  { c with views := c.views.filter fun v => !sameName v.name name }

def dropIndex (c : Content) (name : String) : Content :=
  let keep (index : String) : Bool := !sameName index name
  { c with
    indexes := c.indexes.filter fun i => keep i.name
    tables := c.tables.map fun t => { t with keys := t.keys.filter fun k => k.index.all keep } }

def dropObject (c : Content) (kind : ObjectKind) (ifPresent : Bool) (name : TableName) :
    Except Failure Content :=
  let absent : Except Failure Content :=
    if ifPresent then .ok c else .error (.noSuch kind name.text)
  if !name.known then absent
  else match kind, c.kindOf? name.name with
    | .table, some .table => .ok (dropTable c name.name)
    | .view, some .view => .ok (dropView c name.name)
    | .index, some .index => .ok (dropIndex c name.name)
    | .table, some .view => .error (.dropOther .view name.name)
    | .view, some .table => .error (.dropOther .table name.name)
    | _, _ => absent

end SqlGateway.Sql
