import SqlGateway.Double.Text
import SqlGateway.Error
import SqlGateway.Text.Json
import SqlGateway.Text.Number
import SqlGateway.Text.Utf8
import SqlGateway.Value.Basic

namespace SqlGateway

/-- Reads a trimmed text; a failure names the text untrimmed. -/
def parseAs {α : Type} (read : List Char → Option α) (target input : String) : Result α :=
  match read (Text.trimChars input.toList) with
  | some a => .ok a
  | none => .error (.parse input target)

def truthText (s : String) : Bool :=
  let s := Text.trim s
  Text.lowerText s == "true" || Text.lowerText s == "on" || s == "1"

def decodeHex (input : String) : Result Blob :=
  let digits := match input.toList with
    | '0' :: 'x' :: cs => cs
    | '0' :: 'X' :: cs => cs
    | cs => cs
  match Text.Hex.decode? digits with
  | some b => .ok b
  | none => .error (.parse input "blob")

namespace Value

def toText : Value → String
  | absent | null => ""
  | string s => s
  | blob b => Text.Utf8.lossy b
  | bool b => if b then "true" else "false"
  | int n => toString n.toInt
  | int64 n => toString n.toInt
  | double x => x.plain

def toBlob : Value → Blob
  | blob b => b
  | v => Text.Utf8.encode v.toText

def toBool : Value → Bool
  | absent | null => false
  | string s => truthText s
  | blob b => !b.isEmpty
  | bool b => b
  | int n => n ≠ 0
  | int64 n => n ≠ 0
  | double x => !x.isZero

/-- A wide integer keeps its low 32 bits. -/
def toInt : Value → Result Int32
  | absent | null => .ok 0
  | string s => parseAs Text.int32? "int" s
  | blob b => parseAs Text.int32? "int" (Text.Utf8.lossy b)
  | bool b => .ok (if b then 1 else 0)
  | int n => .ok n
  | int64 n => .ok n.toInt32
  | double x => .ok (Int32.ofInt (x.toIntWithin int32Min int32Max))

def toInt64 : Value → Result Int64
  | absent | null => .ok 0
  | string s => parseAs Text.int64? "int64" s
  | blob b => parseAs Text.int64? "int64" (Text.Utf8.lossy b)
  | bool b => .ok (if b then 1 else 0)
  | int n => .ok n.toInt64
  | int64 n => .ok n
  | double x => .ok (Int64.ofInt (x.toIntWithin int64Min int64Max))

def toDouble : Value → Result Double
  | absent | null => .ok Double.zero
  | string s => parseAs Text.double? "double" s
  | blob b => parseAs Text.double? "double" (Text.Utf8.lossy b)
  | bool b => .ok (Double.ofInt (if b then 1 else 0))
  | int n => .ok (Double.ofInt n.toInt)
  | int64 n => .ok (Double.ofInt n.toInt)
  | double x => .ok x

def optional {α : Type} (read : Value → Result α) (v : Value) : Result (Option α) :=
  if v.isEmpty then .ok none else (read v).map some

def display : Value → String
  | null => "NULL"
  | blob b => Text.Hex.text b
  | v => v.toText

/-- The JSON form: blobs as hexadecimal strings, nothing for what JSON has no number for. -/
def json : Value → String
  | absent | null => "null"
  | string s => Text.Json.string s
  | blob b => Text.Json.string (Text.Hex.text b)
  | double x => x.json?.getD "null"
  | v => v.toText

end Value
end SqlGateway
