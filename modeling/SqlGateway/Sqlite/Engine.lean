import SqlGateway.Rows.Column
import SqlGateway.Sql.Datum

namespace SqlGateway.Sqlite

structure Failure where
  code : Nat
  message : String
deriving DecidableEq, Repr, Inhabited

def Failure.at (stage : Stage) (f : Failure) : Error := .native stage (toString f.code) f.message

def misuse (message : String) : Failure := ⟨21, message⟩

/-- How a step of a statement ended: on a row, at the end of its work, or with a failure. -/
inductive Outcome where
  | row
  | done
  | failed (f : Failure)
deriving DecidableEq, Repr, Inhabited

/-- Change counters of one database. The two counts are meant up to `2 ^ 31 - 1`, which the engine's
own counters hold. -/
structure Counters where
  /-- Rows changed by the statement that completed last. -/
  changes : Nat := 0
  total : Nat := 0
  rowid : Int64 := 0
deriving DecidableEq, Repr, Inhabited

structure ResultColumn where
  name : String
  declared : Option String := none
  originName : String := ""
  originTable : String := ""
deriving DecidableEq, Repr, Inhabited

/-- What the adapter asks of an embedded engine with state `σ`, whose databases and statements go by
number. -/
structure Engine (σ : Type) where
  openDatabase : String → σ → Except Failure Nat × σ
  closeDatabase : Nat → σ → σ
  /-- Compiles the first statement of a text, if there is one, and tells what of the text is left. A
  text of `2 ^ 31` octets or more is refused before the engine sees it, which counts as its
  answer. -/
  prepare : Nat → List Char → σ → Except Failure (Option Nat × List Char) × σ
  finalize : Nat → σ → σ
  step : Nat → σ → Outcome × σ
  /-- Rewinds a statement; its parameters stay. -/
  reset : Nat → σ → σ
  bind : Nat → Nat → Sql.Datum → σ → Except Failure Unit × σ
  parameters : Nat → σ → List (Option String)
  columns : Nat → σ → List ResultColumn
  row : Nat → σ → List Sql.Datum
  counters : Nat → σ → Counters

namespace Engine

variable {σ : Type} (E : Engine σ)

/-- What was changed since the counters stood at `mark`. The count of the last statement is only
its own if the total moved, and the identity is only reported if it moved. -/
def statsSince (mark : Counters) (database : Nat) (s : σ) : Stats :=
  let now := E.counters database s
  ⟨if now.total = mark.total then 0 else UInt64.ofNat now.changes,
    if now.rowid = mark.rowid then 0 else UInt64.ofNat now.rowid.toInt.toNat⟩

def stepOn (statement : Nat) (s : σ) : σ ⊕ (Outcome × σ) :=
  match E.step statement s with
  | (.row, s) => .inl s
  | r => .inr r

def complete (statement : Nat) (s : σ) : Outcome × σ :=
  have : Nonempty (Outcome × σ) := ⟨.done, s⟩
  repeatM (m := Id) (E.stepOn statement) s

/-- Executes the statements of a text in order. Changes add up, and the last identity that is not
zero is kept. -/
def executeText (database : Nat) (text : List Char) (stats : Stats) (s : σ) : Result Stats × σ :=
  if text = [] then (.ok stats, s)
  else match E.prepare database text s with
  | (.error f, s) => (.error (f.at .prepare), s)
  | (.ok (none, rest), s) =>
    if rest.length < text.length then executeText database rest stats s else (.ok stats, s)
  | (.ok (some statement, rest), s) =>
    if rest.length < text.length then
      let mark := E.counters database s
      match E.complete statement s with
      | (.failed f, s) => (.error (f.at .execute), E.finalize statement s)
      | (_, s) =>
        let own := E.statsSince mark database s
        executeText database rest
          ⟨stats.affectedRows + own.affectedRows,
            if own.lastInsertId = 0 then stats.lastInsertId else own.lastInsertId⟩
          (E.finalize statement s)
    else (.ok stats, E.finalize statement s)
termination_by text.length

def isNul (c : Char) : Bool := c.toNat = 0

def execute (database : Nat) (sql : String) (s : σ) : Result Stats × σ :=
  if sql.toList.any isNul then (.error ((misuse "SQL text contains NUL").at .prepare), s)
  else E.executeText database sql.toList {} s

end Engine

def location (target : String) : String :=
  if target = "" ∨ target = "memory:" ∨ target = ":memory:" ∨ target = "//:memory:" then ":memory:"
  else match target.toList with
    | '/' :: '/' :: rest => String.ofList rest
    | _ => target

/-- Opens the database behind a connection URL; the message of a failure names the location. -/
def Engine.connect {σ : Type} (E : Engine σ) (target : String) (s : σ) : Result Nat × σ :=
  let path := location target
  if path.toList.any Engine.isNul then
    (.error ((misuse "database path contains NUL").at .connection), s)
  else match E.openDatabase path s with
    | (.ok database, s) => (.ok database, s)
    | (.error f, s) =>
      (.error ((Failure.mk f.code (f.message ++ " (" ++ path ++ ")")).at .connection), s)

end SqlGateway.Sqlite
