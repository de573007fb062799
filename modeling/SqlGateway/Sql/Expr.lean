import SqlGateway.Sql.Datum

namespace SqlGateway.Sql

inductive Binary where
  | or
  | and
  | equal
  | unequal
  | less
  | lessEqual
  | greater
  | greaterEqual
  | is
  | bitAnd
  | bitOr
  | shiftLeft
  | shiftRight
  | add
  | subtract
  | multiply
  | divide
  | remainder
  | concat
deriving DecidableEq, Repr

inductive Unary where
  | not
  | negate
  | plus
  | complement
  | isNull
deriving DecidableEq, Repr

inductive Expr (ρ φ : Type) where
  | literal (d : Datum)
  | parameter (index : Nat)
  | ref (r : ρ)
  | unary (op : Unary) (e : Expr ρ φ)
  | binary (op : Binary) (a b : Expr ρ φ)
  | call (f : φ) (args : List (Expr ρ φ))

structure ColumnName where
  table : Option String := none
  name : String
  /-- In double quotes; such a name is a text if it names no column. -/
  quoted : Bool := false
deriving DecidableEq, Repr

def ColumnName.text (c : ColumnName) : String :=
  match c.table with
  | some table => table ++ "." ++ c.name
  | none => c.name

structure FunctionName where
  name : String
  star : Bool := false
deriving DecidableEq, Repr

abbrev WrittenExpr := Expr ColumnName FunctionName

inductive Function where
  | abs
  | length
  | typeof
  | char
  | count
deriving DecidableEq, Repr

/-- A column of the row that one source of a statement stands on. The number of columns stands for
the row number. -/
structure Slot where
  source : Nat
  column : Nat
  affinity : Affinity
deriving DecidableEq, Repr

abbrev BoundExpr := Expr Slot Function

namespace Expr

variable {ρ φ : Type}

def not (e : Expr ρ φ) : Expr ρ φ := unary .not e

def and (a b : Expr ρ φ) : Expr ρ φ := binary .and a b

def conjunction : List (Expr ρ φ) → Option (Expr ρ φ)
  | [] => none
  | e :: es => some (es.foldl and e)

def isLiteral : Expr ρ φ → Bool
  | literal _ => true
  | _ => false

end Expr
end SqlGateway.Sql
