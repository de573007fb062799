import SqlGateway.Error
import SqlGateway.Value.Basic

namespace SqlGateway

structure Column where
  name : String
  type : ValueType
  native : Int32
  /-- Ordinal in the result it was added to. -/
  index : Nat
  originName : String := ""
  originTable : String := ""
deriving DecidableEq, Repr, Inhabited

abbrev Columns := List Column

namespace Columns

def add (cols : Columns) (name : String) (type : ValueType) (native : Int32)
    (originName originTable : String := "") : Columns :=
  cols ++ [⟨name, type, native, cols.length, originName, originTable⟩]

def get (cols : Columns) (index : Nat) : Result Column :=
  match cols[index]? with
  | some c => .ok c
  | none => .error (.outOfRange index cols.length)

def indexOf? (cols : Columns) (name : String) : Option Nat := cols.findIdx? (·.name == name)

def names (cols : Columns) : List String := cols.map (·.name)

end Columns

structure Stats where
  affectedRows : UInt64 := 0
  lastInsertId : UInt64 := 0
deriving DecidableEq, Repr, Inhabited

/-- What the rows of a cursor belong to. -/
inductive Anchor where
  | statement (id : Nat)
  | buffer (id : Nat)
deriving DecidableEq, Repr, Inhabited

/-- Where a cursor stands: at a row, or at the end, which is the same for all. -/
inductive Position where
  | atEnd
  | at (anchor : Anchor) (token : Nat)
deriving DecidableEq, Repr, Inhabited

end SqlGateway
