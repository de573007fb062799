import SqlGateway.Value.Convert

namespace SqlGateway.Odbc

/-- Every cell arrives as text, whatever the type of its column, and bound values are sent
natively. -/
abbrev Cell := Option Blob

def truth (cs : List Char) : Result Bool :=
  let name := cs.map Text.lowerAscii
  if cs = ['1'] ∨ name = ['t', 'r', 'u', 'e'] then .ok true
  else if cs = ['0'] ∨ name = ['f', 'a', 'l', 's', 'e'] then .ok false
  else .error (.parse (String.ofList cs) "bool")

def parseTrimmed {α : Type} (read : List Char → Option α) (target : String) (cs : List Char) :
    Result α :=
  match read cs with
  | some a => .ok a
  | none => .error (.parse (String.ofList cs) target)

/-- Columns of a type without values of its own keep their text. -/
def decode (type : ValueType) : Cell → Result Value
  | none => .ok .null
  | some octets =>
    let text := Text.Utf8.decodeLossy octets
    let trimmed := Text.trimChars text
    match type with
    | .bool => (truth trimmed).map .bool
    | .int => (parseTrimmed Text.int32? "int" trimmed).map .int
    | .int64 => (parseTrimmed Text.int64? "int64" trimmed).map .int64
    | .double => (parseTrimmed Text.double? "double" trimmed).map .double
    | .blob => (decodeHex (String.ofList trimmed)).map .blob
    | .nullValue => .ok .null
    | .string | .none | .unsupported => .ok (.string (String.ofList text))

inductive Parameter where
  | null
  | text (s : String)
  | binary (b : Blob)
  | bit (b : Bool)
  | int (n : Int32)
  | int64 (n : Int64)
  | double (x : Double)
deriving DecidableEq, Repr

def Parameter.ofValue : Value → Parameter
  | .absent | .null => null
  | .string s => text s
  | .blob b => binary b
  | .bool b => bit b
  | .int n => int n
  | .int64 n => int64 n
  | .double x => double x

end SqlGateway.Odbc
