import SqlGateway.Double.Basic

namespace SqlGateway

/-- What kind of value a column holds; `unsupported` is a native type with no value of its own. -/
inductive ValueType where
  | none
  | nullValue
  | string
  | blob
  | bool
  | int
  | int64
  | double
  | unsupported
deriving DecidableEq, Repr, Inhabited

def ValueType.name : ValueType → String
  | .none => "NONE"
  | .nullValue => "NULL_VALUE"
  | .string => "STRING"
  | .blob => "BLOB"
  | .bool => "BOOL"
  | .int => "INT"
  | .int64 => "INT64"
  | .double => "DOUBLE"
  | .unsupported => "UNSUPPORTED"

abbrev Blob := List UInt8

/-- Null is a value of its own, and so is the absent value of a slot that nothing was ever put
into. -/
inductive Value where
  | absent
  | null
  | string (s : String)
  | blob (b : Blob)
  | bool (b : Bool)
  | int (n : Int32)
  | int64 (n : Int64)
  | double (x : Double)
deriving DecidableEq, Repr, Inhabited

namespace Value

def type : Value → ValueType
  | absent => .none
  | null => .nullValue
  | string _ => .string
  | blob _ => .blob
  | bool _ => .bool
  | int _ => .int
  | int64 _ => .int64
  | double _ => .double

def isNull (v : Value) : Bool := v = null

def isAbsent (v : Value) : Bool := v = absent

def isEmpty (v : Value) : Bool := v.isNull || v.isAbsent

/-- Equality of kind and content; doubles compare as numbers, so no NaN equals itself. -/
def same : Value → Value → Bool
  | double x, double y => x.eqNum y
  | double _, _ => false
  | _, double _ => false
  | v, w => v = w

def ofOption {α : Type} (inject : α → Value) : Option α → Value
  | some a => inject a
  | none => null

end Value
end SqlGateway
