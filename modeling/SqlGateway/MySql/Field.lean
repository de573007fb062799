import SqlGateway.Rows.Column

namespace SqlGateway.MySql

inductive FieldType where
  | decimal | newDecimal
  | tiny | short | int24 | long | longlong | year
  | float | double
  | varchar | varString | string | json | enumeration | choices
  | tinyBlob | mediumBlob | longBlob | blob
  | null
  | other
deriving DecidableEq, Repr

def FieldType.ofCode : Nat → FieldType
  | 0 => .decimal
  | 1 => .tiny
  | 2 => .short
  | 3 => .long
  | 4 => .float
  | 5 => .double
  | 6 => .null
  | 8 => .longlong
  | 9 => .int24
  | 13 => .year
  | 15 => .varchar
  | 245 => .json
  | 246 => .newDecimal
  | 247 => .enumeration
  | 248 => .choices
  | 249 => .tinyBlob
  | 250 => .mediumBlob
  | 251 => .longBlob
  | 252 => .blob
  | 253 => .varString
  | 254 => .string
  | _ => .other

structure Field where
  name : String := ""
  originName : String := ""
  originTable : String := ""
  code : UInt8
  flags : Nat := 0
  length : Nat := 0
deriving DecidableEq, Repr

namespace Field

def type (f : Field) : FieldType := .ofCode f.code.toNat

/-- Flag 128 marks a column without a character set. -/
def isBinary (f : Field) : Bool := f.flags / 128 % 2 = 1

/-- A `TINYINT` of display width one holds truth values. -/
def valueType (f : Field) : ValueType :=
  match f.type with
  | .tiny => if f.length = 1 then .bool else .int
  | .short | .long | .int24 | .year => .int
  | .longlong => .int64
  | .float | .double | .decimal | .newDecimal => .double
  | .varchar | .varString | .string | .json | .enumeration | .choices
  | .tinyBlob | .mediumBlob | .longBlob | .blob => if f.isBinary then .blob else .string
  | .null => .nullValue
  | .other => .unsupported

end Field

def columnsOf (fields : List Field) : Columns :=
  fields.foldl (fun cols f =>
    cols.add f.name f.valueType (Int32.ofNat f.code.toNat) f.originName f.originTable) []

end SqlGateway.MySql
