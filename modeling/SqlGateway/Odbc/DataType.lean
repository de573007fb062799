import SqlGateway.Value.Basic

namespace SqlGateway.Odbc

/-- A length of zero is one that the driver does not know. -/
inductive DataType where
  | unknown
  | char (length : Nat)
  | wideChar (length : Nat)
  | varchar (length : Nat)
  | wideVarchar (length : Nat)
  | longVarchar (length : Nat)
  | binary (length : Nat)
  | varbinary (length : Nat)
  | longVarbinary (length : Nat)
  | numeric (precision : Nat)
  | decimal (precision : Nat)
  | integer
  | smallInt
  | tinyInt
  | bigInt
  | bit
  | float (precision : Nat)
  | real
  | double
  | date
  | time (precision : Nat)
  | timestamp (precision : Nat)
  | other (size : Nat)
deriving DecidableEq, Repr

namespace DataType

def valueType : DataType → ValueType
  | char _ | varchar _ | longVarchar _ | wideChar _ | wideVarchar _ => .string
  | binary _ | varbinary _ | longVarbinary _ => .blob
  | bit => .bool
  | tinyInt | smallInt | integer => .int
  | bigInt => .int64
  | real | float _ | double | decimal _ | numeric _ => .double
  | unknown | date | time _ | timestamp _ | other _ => .unsupported

/-- The code of the SQL type; types outside the standard's list report zero. -/
def code : DataType → Int
  | char _ => 1
  | numeric _ => 2
  | decimal _ => 3
  | integer => 4
  | smallInt => 5
  | float _ => 6
  | real => 7
  | double => 8
  | varchar _ => 12
  | date => 91
  | time _ => 92
  | timestamp _ => 93
  | longVarchar _ => -1
  | binary _ => -2
  | varbinary _ => -3
  | longVarbinary _ => -4
  | bigInt => -5
  | tinyInt => -6
  | bit => -7
  | wideChar _ => -8
  | wideVarchar _ => -9
  | unknown | other _ => 0

def ofCode (code : Int) (size digits : Nat) : DataType :=
  match code with
  | 0 => unknown
  | 1 => char size
  | 2 => numeric size
  | 3 => decimal size
  | 4 => integer
  | 5 => smallInt
  | 6 => float size
  | 7 => real
  | 8 => double
  | 12 => varchar size
  | 91 => date
  | 92 => time digits
  | 93 => timestamp digits
  | -1 => longVarchar size
  | -2 => binary size
  | -3 => varbinary size
  | -4 => longVarbinary size
  | -5 => bigInt
  | -6 => tinyInt
  | -7 => bit
  | -8 => wideChar size
  | -9 => wideVarchar size
  | _ => other size

def withFraction (width precision : Nat) : Nat :=
  if precision = 0 then width else width + 1 + precision

/-- Most octets of a value written as text, zero where that is not known. A character takes up to
four octets, an octet of a binary value two digits. -/
def textSize : DataType → Nat
  | char n | varchar n | longVarchar n | wideChar n | wideVarchar n => 4 * n
  | binary n | varbinary n | longVarbinary n => 2 * n
  | numeric n | decimal n => n + 2
  | integer => 11
  | smallInt => 6
  | tinyInt => 4
  | bigInt => 20
  | bit => 1
  | real => 14
  | float n => if n ≤ 24 then 14 else 24
  | double => 24
  | date => 10
  | time p => withFraction 8 p
  | timestamp p => withFraction 19 p
  | other n => n
  | unknown => 0

end DataType
end SqlGateway.Odbc
