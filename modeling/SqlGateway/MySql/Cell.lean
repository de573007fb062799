import SqlGateway.Double.Single
import SqlGateway.Value.Convert

namespace SqlGateway.MySql

/-- The text protocol sends every cell as octets, the binary one sends numbers, dates and times
natively. -/
inductive Cell where
  | null
  | bytes (b : Blob)
  | int (n : Int64)
  | uint (n : UInt64)
  | float (x : Single)
  | double (x : Double)
  | date (year month day hour minute second micros : Nat)
  | time (negative : Bool) (days hours minutes seconds micros : Nat)
deriving DecidableEq, Repr, Inhabited

def padded (width n : Nat) : String :=
  let ds := Nat.toDigits 10 n
  String.ofList (List.replicate (width - ds.length) '0' ++ ds)

def clock (hours : String) (minutes seconds micros : Nat) : String :=
  hours ++ ":" ++ padded 2 minutes ++ ":" ++ padded 2 seconds
    ++ (if micros = 0 then "" else "." ++ padded 6 micros)

namespace Cell

/-- Days before the time of day, which is left out at midnight. -/
def dateText (year month day hour minute second micros : Nat) : String :=
  let days := padded 4 year ++ "-" ++ padded 2 month ++ "-" ++ padded 2 day
  if hour = 0 ∧ minute = 0 ∧ second = 0 ∧ micros = 0 then days
  else days ++ " " ++ clock (padded 2 hour) minute second micros

/-- Days count as hours. -/
def timeText (negative : Bool) (days hours minutes seconds micros : Nat) : String :=
  (if negative then "-" else "") ++ clock (padded 3 (days * 24 + hours)) minutes seconds micros

def written : Cell → Blob
  | null => Text.Utf8.encode "NULL"
  | bytes b => b
  | int n => Text.Utf8.encode (toString n.toInt)
  | uint n => Text.Utf8.encode (toString n.toNat)
  | float x => Text.Utf8.encode x.plain
  | double x => Text.Utf8.encode x.plain
  | date y m d h mi s us => Text.Utf8.encode ("'" ++ dateText y m d h mi s us ++ "'")
  | time neg d h mi s us => Text.Utf8.encode ("'" ++ timeText neg d h mi s us ++ "'")

/-- A number beyond 64 signed bits wraps, and a fraction is dropped. -/
def toInt64 : Cell → Result Int64
  | int n => .ok n
  | uint n => .ok n.toInt64
  | float x => .ok (Int64.ofInt (x.toDouble.toIntWithin int64Min int64Max))
  | double x => .ok (Int64.ofInt (x.toIntWithin int64Min int64Max))
  | c => parseAs Text.int64? "int64" (Text.Utf8.lossy c.written)

def toDouble : Cell → Result Double
  | int n => .ok (Double.ofInt n.toInt)
  | uint n => .ok (Double.ofInt n.toNat)
  | float x => .ok x.toDouble
  | double x => .ok x
  | c => parseAs Text.double? "double" (Text.Utf8.lossy c.written)

def decode (type : ValueType) : Cell → Result Value
  | null => .ok .null
  | c =>
    match type with
    | .bool => c.toInt64.map fun n => .bool (n ≠ 0)
    | .int => c.toInt64.map fun n => .int n.toInt32
    | .int64 => c.toInt64.map .int64
    | .double => c.toDouble.map .double
    | .string => .ok (.string (Text.Utf8.lossy c.written))
    | .blob => .ok (.blob c.written)
    | .nullValue => .ok .null
    | .none | .unsupported => .ok .absent

def encode : Value → Cell
  | .absent | .null => null
  | .string s => bytes (Text.Utf8.encode s)
  | .blob b => bytes b
  | .bool b => int (if b then 1 else 0)
  | .int n => int n.toInt64
  | .int64 n => int n
  | .double x => double x

end Cell
end SqlGateway.MySql
