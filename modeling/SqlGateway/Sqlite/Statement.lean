import SqlGateway.Rows.Parameters
import SqlGateway.Rows.Row
import SqlGateway.Sqlite.Engine

namespace SqlGateway.Sqlite

inductive StorageClass where
  | integer
  | real
  | text
  | blob
  | null
deriving DecidableEq, Repr, Inhabited

namespace StorageClass

def code : StorageClass → Int32
  | integer => 1
  | real => 2
  | text => 3
  | blob => 4
  | null => 5

def valueType : StorageClass → ValueType
  | integer => .int64
  | real => .double
  | text => .string
  | blob => .blob
  | null => .nullValue

def ofDatum : Sql.Datum → StorageClass
  | .null => null
  | .integer _ => integer
  | .real _ => real
  | .text _ => text
  | .blob _ => blob

def read : StorageClass → Sql.Datum → Value
  | integer, d => .int64 d.toInteger
  | real, d => .double d.toReal
  | text, d => .string (Text.Utf8.lossy d.octets)
  | blob, d => .blob d.octets
  | null, _ => .null

end StorageClass

/-- The kind of value that a declared column type promises. -/
def declaredType (declared : String) : ValueType :=
  match Sql.Affinity.ofDeclared (some declared) with
  | .integer => .int64
  | .text => .string
  | .blob => .blob
  | .real | .numeric => .double

def parameterDatum : Value → Sql.Datum
  | .absent | .null => .null
  | .string s => .ofText s
  | .blob b => .blob b
  | .bool b => .ofBool b
  | .int n => .integer n.toInt64
  | .int64 n => .integer n
  | .double x => .ofReal x

/-- The most octets that a text or a blob can have on its way to the engine. -/
def sizeLimit : Nat := 2147483647

def oversized? : Value → Option Error
  | .string s => if sizeLimit < s.utf8ByteSize then some (.bind "text too large") else none
  | .blob b => if sizeLimit < b.length then some (.bind "blob too large") else none
  | _ => none

structure Statement where
  native : Nat
  database : Nat
  parameters : Nat
  /-- Counts executions and accepted bindings, and wraps around. -/
  generation : UInt64 := 0
  onRow : Bool := false
deriving DecidableEq, Repr, Inhabited

structure Cursor where
  columns : Columns
  stats : Stats
  generation : UInt64
  /-- Storage classes of the row that was fetched last. -/
  classes : List StorageClass
  steps : Nat := 0
deriving DecidableEq, Repr, Inhabited

variable {σ : Type} (E : Engine σ)

def Engine.prepareStatement (database : Nat) (sql : String) (s : σ) : Result Statement × σ :=
  if sql.toList.any Engine.isNul then
    (.error ((misuse "SQL text contains NUL").at .prepare), s)
  else match E.prepare database sql.toList s with
    | (.error f, s) => (.error (f.at .prepare), s)
    | (.ok (none, _), s) => (.error ((misuse "empty statement").at .prepare), s)
    | (.ok (some native, _), s) =>
      (.ok ⟨native, database, (E.parameters native s).length, 0, false⟩, s)

namespace Statement

def reset (t : Statement) (s : σ) : Statement × σ := ({ t with onRow := false }, E.reset t.native s)

/-- Takes every cursor its turn away and rewinds. -/
def invalidate (t : Statement) (s : σ) : Statement × σ :=
  reset E { t with generation := t.generation + 1 } s

def parameterName? (t : Statement) (index : Nat) (s : σ) : Option String :=
  if index = 0 then none else ((E.parameters t.native s)[index - 1]?).join

def exactIndex? (t : Statement) (name : String) (s : σ) : Option Nat :=
  if name.toList.any Engine.isNul then none
  else ((E.parameters t.native s).findIdx? (· = some name)).map (· + 1)

def marks : List Char := [':', '@', '$']

/-- Looks for the name as it is; a bare name then with each mark in front. -/
def parameterIndex? (t : Statement) (name : String) (s : σ) : Option Nat :=
  match t.exactIndex? E name s with
  | some index => some index
  | none =>
    match name.toList with
    | c :: _ =>
      if c = '?' ∨ c ∈ marks then none
      else marks.findSome? fun mark => t.exactIndex? E (String.ofList (mark :: name.toList)) s
    | [] => marks.findSome? fun mark => t.exactIndex? E (String.ofList [mark]) s

/-- Parameters can only be bound while the native statement is rewound. -/
def bind (t : Statement) (index : Nat) (v : Value) (s : σ) : Result Unit × Statement × σ :=
  match parameterSlot index t.parameters with
  | .error e => (.error e, t, s)
  | .ok _ =>
    let (t, s) := t.invalidate E s
    match oversized? v with
    | some e => (.error e, t, s)
    | none =>
      match E.bind t.native index (parameterDatum v) s with
      | (.ok (), s) => (.ok (), t, s)
      | (.error f, s) =>
        (.error (.bind ("parameter " ++ toString index ++ ": " ++ f.message ++ " ["
          ++ toString f.code ++ "]")), t, s)

end Statement

def capture (t : Statement) (size : Nat) (s : σ) : List StorageClass :=
  let row := E.row t.native s
  (List.range size).map fun i => .ofDatum (row.getD i .null)

/-- The kind of a column is that of its first value; without one it is what the declaration says. -/
def columnType (onRow : Bool) (first : StorageClass) (declared : Option String) : ValueType :=
  if onRow ∧ first ≠ .null then first.valueType
  else match declared with
    | some declared => declaredType declared
    | none => if onRow then .nullValue else .none

def describe (onRow : Bool) (classes : List StorageClass) (cols : List ResultColumn) : Columns :=
  cols.zipIdx.foldl (fun known (c, i) =>
    let first := if onRow then classes.getD i .null else .null
    known.add c.name (columnType onRow first c.declared) first.code c.originName c.originTable) []

/-- Runs the first step, which makes all changes and finds the first row. -/
def Statement.execute (t : Statement) (s : σ) : Result Cursor × Statement × σ :=
  let (t, s) := t.invalidate E s
  let mark := E.counters t.database s
  let start (onRow : Bool) (s : σ) : Result Cursor × Statement × σ :=
    let cols := E.columns t.native s
    let classes := if onRow then capture E t cols.length s else []
    (.ok ⟨describe onRow classes cols, E.statsSince mark t.database s,
      t.generation, classes, 0⟩, { t with onRow }, s)
  match E.step t.native s with
  | (.row, s) => start true s
  | (.done, s) => start false s
  | (.failed f, s) =>
    let (t, s) := t.reset E s
    (.error (f.at .execute), t, s)

namespace Cursor

def isCurrent (c : Cursor) (t : Statement) : Bool := c.generation = t.generation

def hasRow (c : Cursor) (t : Statement) : Bool := c.isCurrent t && t.onRow

/-- The row that the native statement stands on, each value in the class it was fetched with. -/
def current (c : Cursor) (t : Statement) (s : σ) : Result LiveRow :=
  if c.hasRow t then
    let row := E.row t.native s
    .ok (c.columns.zipIdx.map fun (_, i) =>
      .ok (match c.classes[i]? with
        | some kind => kind.read (row.getD i .null)
        | none => .absent))
  else .error .invalidIterator

def advance (c : Cursor) (t : Statement) (s : σ) : Result Bool × Cursor × Statement × σ :=
  if !c.isCurrent t then (.error .invalidIterator, c, t, s)
  else if !t.onRow then (.ok false, c, t, s)
  else match E.step t.native s with
    | (.row, s) =>
      (.ok true, { c with classes := capture E t c.columns.length s, steps := c.steps + 1 }, t, s)
    | (.done, s) => (.ok false, c, { t with onRow := false }, s)
    | (.failed f, s) =>
      let (t, s) := t.reset E s
      (.error (f.at .fetch), c, t, s)

/-- A cursor whose turn it is rewinds the statement when it goes. -/
def drop (c : Cursor) (t : Statement) (s : σ) : Statement × σ :=
  if c.isCurrent t then t.reset E s else (t, s)

end Cursor
end SqlGateway.Sqlite
